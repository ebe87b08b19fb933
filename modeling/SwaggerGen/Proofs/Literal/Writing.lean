import SwaggerGen.Proofs.Literal.Grammar

/-!
# Writing literals

Every string has literals. Each of its characters may be written as it is, byte by byte, or by its code
point, in any mixture, and the string is read back from all of them.
-/

namespace SwaggerGen.Literal

/-- A way to write a character between quotes: as it is, by its bytes, some of them in octal and the
others in hexadecimal, or by its code point, which may be short. -/
inductive Style where
  | raw
  | bytes (octal : Nat → Bool)
  | code (long : Bool)

def writeByte (octal : Bool) (b : UInt8) : List Char :=
  if octal then '\\' :: Text.numeral 8 3 b.toNat else '\\' :: 'x' :: Text.numeral 16 2 b.toNat

/-- The escapes of bytes, where it is said for each position whether the byte is in octal. -/
def writeBytes (octal : Nat → Bool) : Nat → List UInt8 → List Char
  | _, [] => []
  | position, b :: rest => writeByte (octal position) b ++ writeBytes octal (position + 1) rest

def writeCode (long : Bool) (c : Char) : List Char :=
  if long ∨ 0xffff < c.toNat then '\\' :: 'U' :: Text.numeral 16 8 c.toNat
  else '\\' :: 'u' :: Text.numeral 16 4 c.toNat

def writeRaw (quote c : Char) : List Char :=
  if c = '\n' then ['\\', 'n'] else if c = quote ∨ c = '\\' then ['\\', c] else [c]

def Style.write (quote c : Char) : Style → List Char
  | raw => writeRaw quote c
  | bytes octal => writeBytes octal 0 (String.utf8EncodeChar c)
  | code long => writeCode long c

def writeQuoted (quote : Char) (parts : List (Style × Char)) : String :=
  String.ofList (quote :: parts.flatMap (fun (style, c) => style.write quote c) ++ [quote])

variable {quote : Char}

theorem SpellsAll.of_spells {item : List Char} {bytes : List UInt8} (h : Spells quote item bytes) :
    SpellsAll quote item bytes := by
  have hall := SpellsAll.cons h .nil
  rwa [List.append_nil, List.append_nil] at hall

theorem SpellsAll.append {body rest : List Char} {bytes more : List UInt8}
    (h : SpellsAll quote body bytes) (hrest : SpellsAll quote rest more) :
    SpellsAll quote (body ++ rest) (bytes ++ more) := by
  induction h with
  | nil => exact hrest
  | cons h _ ih =>
      rw [List.append_assoc, List.append_assoc]
      exact .cons h ih

theorem spells_writeByte (octal : Bool) (b : UInt8) : Spells quote (writeByte octal b) [b] := by
  have hlt := b.toNat_lt
  cases octal with
  | true =>
      apply Spells.octalByte (Text.length_numeral 8 3 _)
      apply Text.isNumeral_numeral (by decide) (by decide)
      omega
  | false =>
      apply Spells.hexByte (Text.length_numeral 16 2 _)
      apply Text.isNumeral_numeral (by decide) (by decide)
      omega

theorem spellsAll_writeBytes (octal : Nat → Bool) (position : Nat) (bytes : List UInt8) :
    SpellsAll quote (writeBytes octal position bytes) bytes := by
  induction bytes generalizing position with
  | nil => exact .nil
  | cons b rest ih => exact .cons (spells_writeByte (octal position) b) (ih (position + 1))

theorem spells_writeCode (long : Bool) (c : Char) :
    Spells quote (writeCode long c) (String.utf8EncodeChar c) := by
  rw [writeCode]
  split
  · apply Spells.longCode (Text.length_numeral 16 8 _)
    apply Text.isNumeral_numeral (by decide) (by decide)
    have hlt : c.toNat < 2 ^ 32 := c.val.toNat_lt
    omega
  · next hshort =>
      apply Spells.shortCode (Text.length_numeral 16 4 _)
      apply Text.isNumeral_numeral (by decide) (by decide)
      rw [not_or] at hshort
      omega

theorem spells_writeRaw (c : Char) : Spells quote (writeRaw quote c) (String.utf8EncodeChar c) := by
  rw [writeRaw]
  split
  · next hline =>
      subst hline
      exact .control (by decide)
  · next hline =>
      split
      · next hmarked =>
          rcases hmarked with rfl | rfl
          · exact .quote
          · exact .backslash
      · next hplain =>
          rw [not_or] at hplain
          exact .raw hplain.1 hplain.2 hline

theorem spellsAll_write (style : Style) (c : Char) :
    SpellsAll quote (style.write quote c) (String.utf8EncodeChar c) := by
  cases style with
  | raw => exact .of_spells (spells_writeRaw c)
  | bytes octal => exact spellsAll_writeBytes octal 0 _
  | code long => exact .of_spells (spells_writeCode long c)

theorem spellsAll_flatMap_write (parts : List (Style × Char)) :
    SpellsAll quote (parts.flatMap fun (style, c) => style.write quote c)
      ((parts.map Prod.snd).flatMap String.utf8EncodeChar) := by
  induction parts with
  | nil => exact .nil
  | cons part rest ih => exact (spellsAll_write part.1 part.2).append ih

theorem standsFor_writeQuoted (parts : List (Style × Char)) :
    StandsFor (writeQuoted '"' parts) (String.ofList (parts.map Prod.snd)) := by
  have hliteral : Denotes (writeQuoted '"' parts).toList (String.ofList (parts.map Prod.snd)) := by
    rw [writeQuoted, String.toList_ofList]
    apply Denotes.doubleQuoted
    rw [Text.utf8Bytes_eq_flatMap, String.toList_ofList]
    exact spellsAll_flatMap_write parts
  exact ⟨[], _, [], List.append_nil _, nofun, nofun, hliteral⟩

/-- A text is read as the string that it is a literal for, and as the empty string if it is no literal.
However the characters of a string are written, they are read back. -/
theorem unquote_eq_iff_standsFor :
    (∀ raw s : String,
      unquote raw = s ↔ StandsFor raw s ∨ s = "" ∧ ¬ ∃ other, StandsFor raw other) ∧
      ∀ parts : List (Style × Char),
        unquote (writeQuoted '"' parts) = String.ofList (parts.map Prod.snd) := by
  refine ⟨?_, fun parts => unquote_eq_of_standsFor (standsFor_writeQuoted parts)⟩
  intro raw s
  constructor
  · rintro rfl
    by_cases h : ∃ other, StandsFor raw other
    · obtain ⟨other, hother⟩ := h
      rw [unquote_eq_of_standsFor hother]
      exact .inl hother
    · exact .inr ⟨unquote_eq_empty h, h⟩
  · rintro (h | ⟨rfl, h⟩)
    · exact unquote_eq_of_standsFor h
    · exact unquote_eq_empty h

example :
    writeQuoted '"' [(.raw, 'a'), (.bytes (· == 1), 'é'), (.code false, '"')] =
      "\"a\\xc3\\251\\u0022\"" := by decide

end SwaggerGen.Literal
