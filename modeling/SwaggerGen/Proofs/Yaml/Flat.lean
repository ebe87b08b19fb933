import SwaggerGen.Proofs.Yaml.Key
import SwaggerGen.Proofs.Yaml.Literal

/-!
# Values without lines of their own

A scalar or an empty container stands on the line of its mark or key, apart from the lines of a block. It
is read back there, and not taken for a container with items.
-/

namespace SwaggerGen.Yaml

open Json (NumberFree)

/-- The line of a value from its first character on, in a container at a column. -/
def flatStart (column : Nat) : Json → List Char
  | .string s => scalarLine (column + 2) s.toList
  | json => flatText json ++ ['\n']

/-- Whether a value has no lines of its own. -/
def IsFlat (json : Json) : Prop :=
  (∀ items, json = .array items → items = []) ∧ ∀ fields, json = .object fields → fields = []

theorem flatLine_eq (column : Nat) (json : Json) : flatLine column json = ' ' :: flatStart column json := by
  cases json <;> rfl

theorem readToken_bar (rest : List Char) : readToken ('|' :: rest) = none := by
  have hread : readToken ('|' :: rest) = readPlain ('|' :: rest) := rfl
  have hstart : startsIndicator ('|' :: rest) = true := by
    rw [startsIndicator.eq_def]
    simp
  rw [hread, readPlain, hstart, Bool.or_true, if_pos rfl]

theorem startsLine_of_readPlain {s : List Char} {r : Json × List Char} (h : readPlain s = some r) :
    StartsLine s ∧ isMark '-' s = false ∧ isMark '?' s = false := by
  rw [readPlain] at h
  split at h
  · cases h
  · next hstart =>
      rw [Bool.or_eq_true, not_or, Bool.not_eq_true, Bool.not_eq_true] at hstart
      obtain ⟨hblank, hindicator⟩ := hstart
      cases s with
      | nil => cases hblank
      | cons c t =>
          rw [startsIndicator.eq_def] at hindicator
          simp only [Bool.or_eq_false_iff] at hindicator
          have hmark {mark : Char} (hmem : "?:-".toList.contains mark = true) :
              isMark mark (c :: t) = false := by
            rw [isMark, Bool.and_eq_false_imp]
            intro hc
            have htoken := hindicator.2.2
            rwa [beq_iff_eq.mp hc, hmem, Bool.true_and] at htoken
          have hblank : isBlankOrBreak c = false := hblank
          simp only [isBlankOrBreak, Bool.or_eq_false_iff, beq_eq_false_iff_ne] at hblank
          exact ⟨⟨hblank.1.1.1, hblank.2⟩, hmark (by decide), hmark (by decide)⟩

/-- A token begins a line, and not with the mark of an item or of a key. -/
theorem startsLine_of_readToken {s : List Char} {r : Json × List Char} (h : readToken s = some r) :
    StartsLine s ∧ isMark '-' s = false ∧ isMark '?' s = false := by
  unfold readToken at h
  split at h
  · exact ⟨⟨by decide, by decide⟩, rfl, rfl⟩
  · exact ⟨⟨by decide, by decide⟩, rfl, rfl⟩
  · exact ⟨⟨by decide, by decide⟩, rfl, rfl⟩
  · exact ⟨⟨by decide, by decide⟩, rfl, rfl⟩
  · exact startsLine_of_readPlain h

theorem readFlat_of_readToken (column : Nat) {s rest : List Char} {json : Json}
    (h : readToken s = some (json, '\n' :: rest)) : readFlat column s = some (json, rest) := by
  unfold readFlat
  split
  · rw [readToken_bar] at h
    cases h
  · rw [h]
    rfl

/-- A value that is not a block is a token at the end of a line. -/
theorem flatStart_cases (column : Nat) {json : Json} (hfree : json.NumberFree) (hflat : IsFlat json) :
    (∃ token, flatStart column json = token ++ ['\n'] ∧
      ∀ rest, readToken (token ++ '\n' :: rest) = some (json, '\n' :: rest)) ∨
    ∃ s : String, json = .string s ∧ Style.ofText s.toList = .literal := by
  have hword {word : List Char} (hplain : allowsPlain word = true) (hne : word ≠ []) (rest : List Char) :
      readToken (word ++ '\n' :: rest) = some (resolve word, '\n' :: rest) :=
    readToken_plain (.line rest) hplain hne
  cases json with
  | null => exact .inl ⟨_, rfl, hword (by decide) (by decide)⟩
  | boolean b =>
      cases b with
      | false => exact .inl ⟨_, rfl, hword (by decide) (by decide)⟩
      | true => exact .inl ⟨_, rfl, hword (by decide) (by decide)⟩
  | number n => exact absurd hfree id
  | string s =>
      by_cases hstyle : Style.ofText s.toList = .literal
      · exact .inr ⟨s, rfl, hstyle⟩
      · refine .inl ⟨scalar (column + 2) s.toList, ?_, ?_⟩
        · rw [flatStart, scalarLine, if_neg fun h => hstyle h.1]
        · intro rest
          rw [readToken_scalar (Nat.succ_pos _) hstyle (.line rest), String.ofList_toList]
  | array items =>
      rw [hflat.1 items rfl]
      exact .inl ⟨['[', ']'], rfl, fun rest => rfl⟩
  | object fields =>
      rw [hflat.2 fields rfl]
      exact .inl ⟨['\x7b', '\x7d'], rfl, fun rest => rfl⟩

/-- A block ends its last line itself, where the string does not. -/
theorem flatStart_literal (column : Nat) {s : String} (hstyle : Style.ofText s.toList = .literal) :
    flatStart column (.string s) =
      block (column + 2) s.toList ++ (if s.toList.getLast?.any isBreak then [] else ['\n']) := by
  have hscalar : scalar (column + 2) s.toList = block (column + 2) s.toList := by
    rw [scalar, hstyle]
  rw [flatStart, scalarLine, hscalar]
  cases hlast : s.toList.getLast?.any isBreak with
  | true => rw [if_pos ⟨hstyle, rfl⟩, if_pos rfl, List.append_nil]
  | false => rw [if_neg fun h => Bool.false_ne_true h.2, if_neg Bool.false_ne_true]

theorem flatStart_literal_eq_cons (column : Nat) {s : String}
    (hstyle : Style.ofText s.toList = .literal) :
    ∃ t, flatStart column (.string s) = '|' :: t := by
  rw [flatStart_literal column hstyle, block]
  exact ⟨_, rfl⟩

theorem readFlat_flatStart (column : Nat) {json : Json} (hfree : json.NumberFree) (hflat : IsFlat json)
    {rest : List Char} (hrest : Follows (fun indent _ => indent ≤ column) rest) :
    readFlat column (flatStart column json ++ rest) = some (json, rest) := by
  rcases flatStart_cases column hfree hflat with ⟨token, htoken, hread⟩ | ⟨s, rfl, hstyle⟩
  · rw [htoken, List.append_assoc]
    exact readFlat_of_readToken column (hread rest)
  · have hne : s.toList ≠ [] := List.ne_nil_of_mem (Style.of_literal hstyle).2
    have hblock := readFlat_block column hne hrest
    rw [String.ofList_toList] at hblock
    rw [flatStart_literal column hstyle, ← hblock, List.append_assoc]
    cases s.toList.getLast?.any isBreak <;> rfl

theorem startsLine_flatStart (column : Nat) {json : Json} (hfree : json.NumberFree)
    (hflat : IsFlat json) : StartsLine (flatStart column json) := by
  rcases flatStart_cases column hfree hflat with ⟨token, htoken, hread⟩ | ⟨s, rfl, hstyle⟩
  · rw [htoken]
    exact (startsLine_of_readToken (hread [])).1
  · obtain ⟨t, heq⟩ := flatStart_literal_eq_cons column hstyle
    rw [heq]
    exact ⟨by decide, by decide⟩

/-- A value without lines of its own is not taken for a container. -/
theorem readNode_flatStart (limit column inner : Nat) {json : Json} (hfree : json.NumberFree)
    (hflat : IsFlat json) {rest : List Char} (hrest : Follows (fun indent _ => indent ≤ column) rest) :
    readNode limit column inner (flatStart column json ++ rest) = some (json, rest) := by
  have hread := readFlat_flatStart column hfree hflat hrest
  cases limit with
  | zero => exact hread
  | succ limit =>
      -- No container is opened: the value begins with no mark, and no colon stands behind it.
      have hkey : isMark '-' (flatStart column json ++ rest) = false ∧
          isMark '?' (flatStart column json ++ rest) = false ∧
          readKey (flatStart column json ++ rest) = none := by
        rcases flatStart_cases column hfree hflat with ⟨token, htoken, hread⟩ | ⟨s, rfl, hstyle⟩
        · rw [htoken, List.append_assoc, List.singleton_append]
          obtain ⟨-, hdash, hquestion⟩ := startsLine_of_readToken (hread rest)
          refine ⟨hdash, hquestion, ?_⟩
          rw [readKey, hread rest]
          cases json <;> rfl
        · obtain ⟨t, heq⟩ := flatStart_literal_eq_cons column hstyle
          refine ⟨by rw [heq]; rfl, by rw [heq]; rfl, ?_⟩
          rw [heq, List.cons_append, readKey, readToken_bar]
          rfl
      rw [readNode, hkey.1, hkey.2.1, hkey.2.2]
      exact hread

end SwaggerGen.Yaml
