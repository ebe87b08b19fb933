import SwaggerGen.Proofs.Json.Text
import SwaggerGen.Yaml.Printer

/-!
# YAML text is printable

Every character of a YAML text is printable: a character that is not stands in double quotes only, and
there as an escape.
-/

namespace SwaggerGen.Yaml

open Json (NumberFree)

section Style

variable {s : List Char}

theorem Style.not_mem_of_ne_literal (h : ofText s ≠ literal) (hdouble : ofText s ≠ double) :
    '\n' ∉ s := by
  intro hmem
  rw [ofText, if_pos (List.contains_iff_mem.mpr hmem)] at h hdouble
  split at h
  · exact h rfl
  · next hnot => exact hdouble (if_neg hnot)

theorem Style.of_plain (h : ofText s = plain) :
    isAmbiguous s = false ∧ allowsPlain s = true ∧ '\n' ∉ s := by
  have hmem := Style.not_mem_of_ne_literal (s := s) (by rw [h]; decide) (by rw [h]; decide)
  rw [ofText, if_neg (by simpa using hmem)] at h
  split at h
  · next hplain => simpa [hmem] using hplain
  · split at h <;> cases h

theorem Style.of_single (h : ofText s = single) : allowsSingle s = true ∧ '\n' ∉ s := by
  have hmem := Style.not_mem_of_ne_literal (s := s) (by rw [h]; decide) (by rw [h]; decide)
  rw [ofText, if_neg (by simpa using hmem)] at h
  split at h
  · cases h
  · split at h
    · next hsingle => exact ⟨hsingle, hmem⟩
    · cases h

theorem Style.of_literal (h : ofText s = literal) : allowsLiteral s = true ∧ '\n' ∈ s := by
  rw [ofText] at h
  split at h
  · next hmem =>
      split at h
      · next hliteral => exact ⟨hliteral, List.contains_iff_mem.mp hmem⟩
      · cases h
  · split at h
    · cases h
    · split at h <;> cases h

end Style

theorem isBreak_of_ne {c : Char} (hfeed : c ≠ '\n') (hreturn : c ≠ '\r') (hnext : c ≠ '\u0085')
    (hline : c ≠ '\u2028') (hparagraph : c ≠ '\u2029') : isBreak c = false := by
  simp only [isBreak, Bool.or_eq_false_iff, beq_eq_false_iff_ne]
  exact ⟨⟨⟨⟨hfeed, hreturn⟩, hnext⟩, hline⟩, hparagraph⟩

/-- Whether all characters of a text are printable. -/
def Printable (s : List Char) : Prop := ∀ c ∈ s, isPrintable c = true

instance (s : List Char) : Decidable (Printable s) :=
  List.decidableBAll (isPrintable · = true) s

section Scalars

variable {s : List Char} (indent : Nat)

@[simp] theorem printable_nil : Printable [] := nofun

@[simp] theorem printable_cons (c : Char) : Printable (c :: s) ↔ isPrintable c = true ∧ Printable s :=
  List.forall_mem_cons

@[simp] theorem printable_append (t : List Char) : Printable (s ++ t) ↔ Printable s ∧ Printable t :=
  List.forall_mem_append

@[simp] theorem printable_spaces : Printable (spaces indent) := by
  intro c hc
  rw [List.eq_of_mem_replicate hc]
  decide

/-- The inside of single quotes holds spaces, quotes, and what the string holds. -/
theorem forall_mem_singleBody {p : Char → Prop} (hspace : p ' ') (hquote : p '\'') {afterBreak : Bool}
    (h : ∀ c ∈ s, p c) : ∀ c ∈ singleBody indent afterBreak s, p c := by
  have hspaces : ∀ c ∈ spaces indent, p c := fun c hc => List.eq_of_mem_replicate hc ▸ hspace
  induction s generalizing afterBreak with
  | nil =>
      rw [singleBody]
      split
      · exact hspaces
      · nofun
  | cons c s ih =>
      rw [List.forall_mem_cons] at h
      rw [singleBody]
      split
      · exact List.forall_mem_cons.mpr ⟨h.1, ih h.2⟩
      · rw [List.forall_mem_append, List.forall_mem_append]
        refine ⟨⟨?_, ?_⟩, ih h.2⟩
        · split
          · exact hspaces
          · nofun
        · split
          · simp [hquote]
          · simp [h.1]

theorem printable_blockBody {atStart : Bool} (h : Printable s) :
    Printable (blockBody indent atStart s) := by
  induction s generalizing atStart with
  | nil => exact printable_nil
  | cons c s ih =>
      rw [printable_cons] at h
      rw [blockBody]
      split
      · simp [h.1, ih h.2]
      · rw [printable_append, printable_cons]
        refine ⟨?_, h.1, ih h.2⟩
        split <;> simp

theorem printable_chompMark : Printable (chompMark s) := by
  rw [chompMark]
  split
  · decide
  · split
    · decide
    · split <;> decide

theorem printable_block (h : Printable s) : Printable (block indent s) := by
  have hhint : Printable (if s.head?.any (fun c => c == ' ' || isBreak c) then ['2'] else []) := by
    split <;> decide
  have hbreak : isPrintable '\n' = true := by decide
  have hbar : isPrintable '|' = true := by decide
  simp [block, hhint, hbreak, hbar, printable_chompMark, printable_blockBody indent h]

theorem upperHex_byte : ∀ n < 0x100, (upperHex 2 n).length = 2 ∧
    Text.number? 16 (upperHex 2 n) = some n ∧
      (upperHex 2 n).all (fun c => isPrintable c && !isBreak c) = true := by
  decide +kernel

/-- A character that is not printable is a control character, or one of three behind them. -/
theorem lt_or_eq_of_not_isPrintable {c : Char} (h : isPrintable c = false) :
    c.toNat < 0x100 ∨ c = '\ufeff' ∨ c = '\ufffe' ∨ c = '\uffff' := by
  by_cases hlow : c.toNat < 0x100
  · exact .inl hlow
  · have hle : '\u00a0' ≤ c := by
      rw [Char.le_def, UInt32.le_iff_toNat_le]
      have : ('\u00a0' : Char).toNat ≤ c.toNat := by
        simp only [show ('\u00a0' : Char).toNat = 0xa0 from rfl]
        omega
      exact this
    rw [isPrintable] at h
    simp only [hle, decide_true, Bool.true_and] at h
    right
    by_contra hne
    push Not at hne
    simp [hne] at h

theorem printable_doubleChar (c : Char) : Printable (doubleChar c) := by
  unfold doubleChar
  split
  case h_15 =>
    split
    · next h => simp [h]
    · next h =>
        rcases lt_or_eq_of_not_isPrintable (by simpa using h) with hlt | rfl | rfl | rfl
        · rw [if_pos (by omega), printable_cons, printable_cons]
          have hdigits := List.all_eq_true.mp (upperHex_byte _ hlt).2.2
          exact ⟨by decide, by decide, fun d hd => (Bool.and_eq_true_iff.mp (hdigits d hd)).1⟩
        all_goals decide +kernel
  all_goals decide

theorem printable_flatMap_doubleChar : Printable (s.flatMap doubleChar) := by
  induction s with
  | nil => exact printable_nil
  | cons c s ih => simp [printable_doubleChar, ih]

theorem printable_of_allowsPlain (h : allowsPlain s = true) : Printable s := by
  simp only [allowsPlain, Bool.and_eq_true, List.all_eq_true] at h
  exact fun c hc => (h.1.1.1.1.1 c hc).1

theorem printable_of_allowsSingle (h : allowsSingle s = true) : Printable s := by
  simp only [allowsSingle, Bool.and_eq_true, List.all_eq_true] at h
  exact h.1.1

theorem printable_of_allowsLiteral (h : allowsLiteral s = true) : Printable s := by
  simp only [allowsLiteral, Bool.and_eq_true, List.all_eq_true] at h
  exact h.1.1

theorem printable_scalar : Printable (scalar indent s) := by
  have hquote : isPrintable '\'' = true := by decide
  have hquotes : isPrintable '"' = true := by decide
  rw [scalar]
  cases hstyle : Style.ofText s with
  | plain => exact printable_of_allowsPlain (Style.of_plain hstyle).2.1
  | single =>
      have h := printable_of_allowsSingle (Style.of_single hstyle).1
      have hbody : Printable (singleBody indent false s) :=
        forall_mem_singleBody indent (by decide) hquote h
      simp [hquote, hbody]
  | double => simp [hquotes, printable_flatMap_doubleChar]
  | literal => exact printable_block indent (printable_of_allowsLiteral (Style.of_literal hstyle).1)

theorem printable_scalarLine : Printable (scalarLine indent s) := by
  rw [scalarLine]
  split
  · exact printable_scalar indent
  · rw [printable_append]
    exact ⟨printable_scalar indent, by decide⟩

end Scalars

/-- The text of a value on one line that is not a string, with the end of its line. -/
theorem printable_flatText {json : Json} (h : json.NumberFree) (hstring : ∀ s, json ≠ .string s) :
    Printable (flatText json ++ ['\n']) := by
  cases json with
  | null => decide
  | boolean b => cases b <;> decide
  | number n => exact absurd h id
  | string s => exact absurd rfl (hstring s)
  | array items => exact (by decide : Printable ['[', ']', '\n'])
  | object fields => exact (by decide : Printable ['{', '}', '\n'])

theorem printable_flatLine (indent : Nat) {json : Json} (h : json.NumberFree) :
    Printable (flatLine indent json) := by
  unfold flatLine
  split
  · exact (printable_cons _).mpr ⟨by decide, printable_scalarLine _⟩
  · next hstring => exact (printable_cons _).mpr ⟨by decide, printable_flatText h hstring⟩

mutual
theorem printable_afterKey (indent : Nat) : (json : Json) → json.NumberFree →
    Printable (afterKey indent json)
  | .array (item :: rest), h => by
      rw [afterKey, printable_cons]
      exact ⟨by decide, printable_itemLines indent false (item :: rest) h⟩
  | .object (field :: rest), h => by
      rw [afterKey, printable_cons]
      exact ⟨by decide, printable_fieldLines (indent + 2) false (field :: rest) h⟩
  | .array [], h => printable_flatLine indent h
  | .object [], h => printable_flatLine indent h
  | .null, h => printable_flatLine indent h
  | .boolean _, h => printable_flatLine indent h
  | .string _, h => printable_flatLine indent h

theorem printable_afterMark (indent : Nat) : (json : Json) → json.NumberFree →
    Printable (afterMark indent json)
  | .array (item :: rest), h => by
      rw [afterMark, printable_cons]
      exact ⟨by decide, printable_itemLines (indent + 2) true (item :: rest) h⟩
  | .object (field :: rest), h => by
      rw [afterMark, printable_cons]
      exact ⟨by decide, printable_fieldLines (indent + 2) true (field :: rest) h⟩
  | .array [], h => printable_flatLine indent h
  | .object [], h => printable_flatLine indent h
  | .null, h => printable_flatLine indent h
  | .boolean _, h => printable_flatLine indent h
  | .string _, h => printable_flatLine indent h

theorem printable_itemLines (indent : Nat) (started : Bool) : (items : List Json) →
    Json.ItemsNumberFree items → Printable (itemLines indent started items)
  | [], _ => printable_nil
  | item :: rest, h => by
      have hitem := printable_afterMark indent item h.1
      have hrest := printable_itemLines indent false rest h.2
      have hstart : Printable (if started then [] else spaces indent) := by split <;> simp
      have hdash : isPrintable '-' = true := by decide
      rw [itemLines]
      simp [hstart, hdash, hitem, hrest]

theorem printable_fieldLines (indent : Nat) (started : Bool) : (fields : List (String × Json)) →
    Json.FieldsNumberFree fields → Printable (fieldLines indent started fields)
  | [], _ => printable_nil
  | (key, value) :: rest, h => by
      have hkeyed := printable_afterKey indent value h.1
      have hmarked := printable_afterMark indent value h.1
      have hrest := printable_fieldLines indent false rest h.2
      have hstart : Printable (if started then [] else spaces indent) := by split <;> simp
      have hcolon : isPrintable ':' = true := by decide
      rw [fieldLines, printable_append, printable_append]
      refine ⟨⟨hstart, ?_⟩, hrest⟩
      split
      · simp [hcolon, printable_scalar, hkeyed]
      · simp [hcolon, printable_scalarLine, hmarked, show isPrintable '?' = true by decide,
          show isPrintable ' ' = true by decide]
end

theorem printable_document {json : Json} (h : json.NumberFree) : Printable (document json) := by
  unfold document
  split
  · exact printable_itemLines 0 false _ h
  · exact printable_fieldLines 0 false _ h
  · exact printable_scalarLine 2
  · next hstring => exact printable_flatText h hstring

end SwaggerGen.Yaml
