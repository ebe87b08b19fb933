import Mathlib.Data.String.Basic
import SwaggerGen.Proofs.Yaml.Scalar

/-!
# Keys read back

A key that is written on one line with its colon is short enough to be read as one: a scalar has no more
than four characters for each byte of its string, apart from its quotes.
-/

namespace SwaggerGen.Yaml

theorem length_doubleChar_le (c : Char) : (doubleChar c).length ≤ 4 * c.utf8Size := by
  have hsize : 0 < c.utf8Size := Char.utf8Size_pos c
  unfold doubleChar
  split
  case h_15 =>
    split
    · rw [List.length_singleton]
      omega
    · next h =>
        rcases lt_or_eq_of_not_isPrintable (by simpa using h) with hlt | rfl | rfl | rfl
        · have hlength := (upperHex_byte _ hlt).1
          rw [if_pos (by omega), List.length_cons, List.length_cons, hlength]
          omega
        all_goals decide +kernel
  all_goals
    simp only [List.length_cons, List.length_nil]
    omega

theorem any_isBreak_doubleChar (c : Char) : (doubleChar c).any isBreak = false := by
  unfold doubleChar
  split
  case h_15 _ _ _ _ hfeed _ _ hreturn _ _ _ hnext hline hparagraph =>
    split
    · rw [List.any_cons, isBreak_of_ne hfeed hreturn hnext hline hparagraph]
      rfl
    · next h =>
        rcases lt_or_eq_of_not_isPrintable (by simpa using h) with hlt | rfl | rfl | rfl
        · have hdigits := List.all_eq_true.mp (upperHex_byte _ hlt).2.2
          have hbreak : (upperHex 2 c.toNat).any isBreak = false := by
            rw [List.any_eq_false]
            intro d hd
            simpa using (Bool.and_eq_true_iff.mp (hdigits d hd)).2
          rw [if_pos (by omega), List.any_cons, List.any_cons, hbreak]
          rfl
        all_goals decide +kernel
  all_goals decide

theorem length_flatMap_doubleChar_le (s : List Char) :
    (s.flatMap doubleChar).length ≤ 4 * String.utf8Len s := by
  induction s with
  | nil => exact Nat.zero_le _
  | cons c s ih =>
      have hchar := length_doubleChar_le c
      rw [List.flatMap_cons, List.length_append, String.utf8Len_cons]
      omega

theorem length_singleBody_le (indent : Nat) {s : List Char} (hbreak : ∀ c ∈ s, isBreak c = false) :
    (singleBody indent false s).length ≤ 4 * String.utf8Len s := by
  induction s with
  | nil => exact Nat.zero_le _
  | cons c s ih =>
      rw [List.forall_mem_cons] at hbreak
      have ih := ih hbreak.2
      have hsize : 0 < c.utf8Size := Char.utf8Size_pos c
      have hchar : (if c = '\'' then ['\'', '\''] else [c]).length ≤ 2 := by split <;> simp
      rw [singleBody, if_neg (by simp [hbreak.1]), List.length_append, List.length_append,
        String.utf8Len_cons]
      simp only [Bool.false_and, Bool.false_eq_true, if_false, List.length_nil]
      omega

theorem length_le_utf8Len (s : List Char) : s.length ≤ String.utf8Len s := by
  induction s with
  | nil => exact Nat.zero_le _
  | cons c s ih =>
      have hsize : 0 < c.utf8Size := Char.utf8Size_pos c
      rw [List.length_cons, String.utf8Len_cons]
      omega

/-- The scalar of a key on one line is on one line as well, and not long. -/
theorem scalar_simpleKey {key : List Char} (h : isSimpleKey key = true) (indent : Nat) :
    Style.ofText key ≠ .literal ∧ (∀ c ∈ scalar indent key, isBreak c = false) ∧
      (scalar indent key).length ≤ 514 := by
  simp only [isSimpleKey, Bool.and_eq_true, Bool.not_eq_true', List.any_eq_false, decide_eq_true_eq,
    Bool.not_eq_true, String.utf8ByteSize_ofList] at h
  obtain ⟨hbreak, hsize⟩ := h
  have hliteral : Style.ofText key ≠ .literal := by
    intro heq
    exact absurd (hbreak '\n' (Style.of_literal heq).2) (by decide)
  refine ⟨hliteral, ?_⟩
  rw [scalar]
  cases hstyle : Style.ofText key with
  | plain => exact ⟨hbreak, Nat.le_trans (length_le_utf8Len key) (by omega)⟩
  | single =>
      have hlength := length_singleBody_le indent hbreak
      have hbody : ∀ c ∈ singleBody indent false key, isBreak c = false :=
        forall_mem_singleBody indent (by decide) isBreak_quote hbreak
      constructor
      · simpa [isBreak_quote, or_imp, forall_and] using hbody
      · simp only [List.length_append, List.length_cons, List.length_nil]
        omega
  | double =>
      have hlength := length_flatMap_doubleChar_le key
      have hquote : isBreak '"' = false := by decide
      have hbody : ∀ c ∈ key.flatMap doubleChar, isBreak c = false := by
        intro c hc
        obtain ⟨d, -, hd⟩ := List.mem_flatMap.mp hc
        exact Bool.eq_false_iff.mpr (List.any_eq_false.mp (any_isBreak_doubleChar d) c hd)
      constructor
      · intro c hc
        simp only [List.mem_append, List.mem_cons, List.not_mem_nil, or_false] at hc
        rcases hc with (rfl | hc) | rfl
        · exact hquote
        · exact hbody c hc
        · exact hquote
      · simp only [List.length_append, List.length_cons, List.length_nil]
        omega
  | literal => exact absurd hstyle hliteral

/-- A key is read back up to its colon. -/
theorem readKey_scalar {indent : Nat} (hindent : 0 < indent) {key rest : List Char}
    (h : isSimpleKey key = true) (hrest : endsToken rest = true) :
    readKey (scalar indent key ++ ':' :: rest) = some (String.ofList key, rest) := by
  obtain ⟨hliteral, hbreak, hlength⟩ := scalar_simpleKey h indent
  have htoken := readToken_scalar hindent hliteral (.colon hrest)
  have hline : (scalar indent key ++ ':' :: rest).take
      ((scalar indent key ++ ':' :: rest).length - rest.length) = scalar indent key ++ [':'] := by
    have hcount : (scalar indent key ++ ':' :: rest).length - rest.length =
        (scalar indent key ++ [':']).length := by
      simp only [List.length_append, List.length_cons, List.length_nil]
      omega
    rw [hcount, List.append_cons _ ':' rest]
    exact List.take_left
  have hcolon : (':' :: rest).dropWhile (· == ' ') = ':' :: rest := rfl
  have hflat : (scalar indent key ++ [':']).any isBreak = false := by
    rw [List.any_append, List.any_eq_false.mpr (by simpa using hbreak)]
    rfl
  have hshort : (scalar indent key ++ [':']).length ≤ 1024 := by
    rw [List.length_append]
    exact Nat.le_trans (Nat.add_le_add_right hlength _) (by decide)
  rw [readKey, htoken]
  simp only [Option.bind_eq_bind, Option.bind_some, hcolon, hline, hflat, hrest, hshort]
  rfl

end SwaggerGen.Yaml
