/-!
# Replacing inside a text

The first occurrence of a word replaced by another, and the first occurrence of a character removed.
Only the first occurrence counts; the replacement is never looked at again.
-/

namespace SwaggerGen.Text

/-- Replaces the first occurrence of `word` by `new`, if there is one. -/
def replaceFirst (word new : List Char) : List Char → List Char
  | [] => if word = [] then new else []
  | c :: rest =>
      if word.isPrefixOf (c :: rest) then new ++ (c :: rest).drop word.length
      else c :: replaceFirst word new rest

theorem replaceFirst_append (word new rest : List Char) :
    replaceFirst word new (word ++ rest) = new ++ rest := by
  cases h : word ++ rest with
  | nil => simp_all [replaceFirst]
  | cons c s =>
      have hp : word.isPrefixOf (c :: s) = true := by
        rw [ List.isPrefixOf_iff_prefix, ← h]
        exact List.prefix_append word rest
      rw [replaceFirst, if_pos hp, ← h, List.drop_left]

theorem replaceFirst_eq_self (word new s : List Char) (h : ¬ word <:+: s) :
    replaceFirst word new s = s := by
  induction s with
  | nil =>
      have hw : word ≠ [] := by
        rintro rfl
        exact h (List.infix_refl [])
      simp [replaceFirst, hw]
  | cons c s ih =>
      have hp : ¬ word.isPrefixOf (c :: s) = true := by
        rw [ List.isPrefixOf_iff_prefix]
        exact fun hp => h hp.isInfix
      have hs : ¬ word <:+: s := fun hs => h (hs.trans (List.suffix_cons c s).isInfix)
      rw [replaceFirst, if_neg hp, ih hs]

end SwaggerGen.Text
