import Mathlib.Data.List.Basic
import SwaggerGen.Json.Printer
import SwaggerGen.Json.StringReader
import SwaggerGen.Proofs.Except

/-!
# Strings in JSON text

Reading a string gives back the one that was written, whatever its characters are: an escape is read as
the character it stands for, and every other character stands for itself.
-/

namespace SwaggerGen.Json

theorem number?_hexDigits : ∀ n < 0x20,
    Text.number? 16 ['0', '0', hexDigit (n / 16), hexDigit n] = some n := by decide

theorem hexNumber_control {n : Nat} (h : n < 0x20) (rest : List Char) :
    hexNumber ('0' :: '0' :: hexDigit (n / 16) :: hexDigit n :: rest) = .ok n := by
  have hleading : Text.leadingNumber? 16 4 ('0' :: '0' :: hexDigit (n / 16) :: hexDigit n :: rest) =
      some n := number?_hexDigits n h
  rw [hexNumber, hleading]

/-- What an escape covers is passed over. -/
theorem readCharacters_covered (covered rest : List Char) :
    readCharacters covered.length (covered ++ rest) = readCharacters 0 rest := by
  induction covered with
  | nil => rfl
  | cons c covered ih => exact ih

/-- An escape in front of a text is read as its character. -/
theorem readCharacters_escape {escape : List Char} {c : Char} {rest : List Char}
    (h : readEscape (escape ++ rest) = .ok (c, escape.length)) :
    readCharacters 0 ('\\' :: escape ++ rest) =
      (readCharacters 0 rest).map fun r => (c :: r.1, r.2) := by
  rw [List.cons_append, readCharacters, if_neg (by decide), if_pos rfl, h, Except.ok_bind]
  simp only [readCharacters_covered]
  cases readCharacters 0 rest <;> rfl

theorem readCharacters_plain {c : Char} (hquote : c ≠ '"') (hescape : c ≠ '\\') (h : ¬ c.toNat < 0x20)
    (rest : List Char) :
    readCharacters 0 (c :: rest) = (readCharacters 0 rest).map fun r => (c :: r.1, r.2) := by
  rw [readCharacters, if_neg hquote, if_neg hescape, if_neg h]
  cases readCharacters 0 rest <;> rfl

theorem readCharacters_escapeChar (c : Char) (rest : List Char) :
    readCharacters 0 (escapeChar c ++ rest) =
      (readCharacters 0 rest).map fun r => (c :: r.1, r.2) := by
  unfold escapeChar
  split
  case h_8 hquote hescape _ _ _ _ _ =>
    split
    · next hcontrol =>
        have hlow : ∀ n < 0x20, isLowSurrogate n = false ∧ isHighSurrogate n = false := by decide
        obtain ⟨hl, hh⟩ := hlow _ hcontrol
        have hescape : readEscape
            (['u', '0', '0', hexDigit (c.toNat / 16), hexDigit c.toNat] ++ rest) = .ok (c, 5) := by
          simp only [List.cons_append, List.nil_append, readEscape, if_true,
            hexNumber_control hcontrol rest, Except.ok_bind, hl, hh, Char.ofNat_toNat]
          rfl
        exact readCharacters_escape hescape
    · next h => exact readCharacters_plain hquote hescape h rest
  all_goals exact readCharacters_escape rfl

theorem readCharacters_flatMap (s rest : List Char) :
    readCharacters 0 (s.flatMap escapeChar ++ '"' :: rest) = .ok (s, rest) := by
  induction s with
  | nil => rfl
  | cons c s ih =>
      rw [List.flatMap_cons, List.append_assoc, readCharacters_escapeChar, ih]
      rfl

/-- A string behind its opening quote is read back. -/
theorem readString_escaped (s : String) (rest : List Char) :
    readString (s.toList.flatMap escapeChar ++ '"' :: rest) = .ok (s, rest) := by
  simp only [readString, readCharacters_flatMap, Except.ok_bind, String.ofList_toList]

end SwaggerGen.Json
