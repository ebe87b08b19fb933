import Mathlib.Data.List.Infix
import SwaggerGen.Text.Replace

/-!
# The first occurrence of a word

A word without the separator that joins a list of parts occurs in the joined text exactly where it
occurs in a part, so its first occurrence is the first one in the first part that has it.
-/

namespace SwaggerGen.Text

/-- A part of a text that is split at a separator does not hold it. -/
theorem not_mem_of_mem_splitOn {sep : Char} {s part : List Char} (h : part ∈ s.splitOn sep) :
    sep ∉ part := by
  induction s generalizing part with
  | nil =>
      rw [List.splitOn_nil, List.mem_singleton] at h
      simp [h]
  | cons c rest ih =>
      rw [List.splitOn_cons_eq_if_modifyHead] at h
      split at h
      · rcases List.mem_cons.mp h with rfl | h
        · exact List.not_mem_nil
        · exact ih h
      · next hc =>
          obtain ⟨first, others, hsplit⟩ := List.exists_cons_of_ne_nil (List.splitOn_ne_nil sep rest)
          rw [hsplit, List.modifyHead_cons] at h
          rcases List.mem_cons.mp h with rfl | h
          · have hfirst := ih (hsplit ▸ List.mem_cons_self)
            have hne : sep ≠ c := fun he => hc (by simp [he])
            simp [hne, hfirst]
          · exact ih (hsplit ▸ List.mem_cons_of_mem _ h)

theorem infix_intercalate (sep : List Char) {part : List Char} {parts : List (List Char)}
    (h : part ∈ parts) : part <:+: sep.intercalate parts := by
  induction parts with
  | nil => simp at h
  | cons first rest ih =>
      cases rest with
      | nil =>
          rw [List.mem_singleton] at h
          rw [h, List.intercalate_singleton]
      | cons second others =>
          rw [List.intercalate_cons_cons]
          rcases List.mem_cons.mp h with rfl | h
          · rw [List.append_assoc]
            exact List.infix_append_left
          · exact List.infix_append_of_infix_right (ih h)

theorem mem_replaceFirst {word new s : List Char} {c : Char} (h : c ∈ replaceFirst word new s) :
    c ∈ new ∨ c ∈ s := by
  induction s with
  | nil =>
      rw [replaceFirst] at h
      split at h
      · exact .inl h
      · exact .inr h
  | cons d rest ih =>
      rw [replaceFirst] at h
      split at h
      · rcases List.mem_append.mp h with h | h
        · exact .inl h
        · exact .inr (List.mem_of_mem_drop h)
      · rcases List.mem_cons.mp h with rfl | h
        · exact .inr List.mem_cons_self
        · exact (ih h).imp_right (List.mem_cons_of_mem d)

/-- A replacement takes the characters of the word out and puts those of the new word in. -/
theorem count_replaceFirst {word s : List Char} (new : List Char) (c : Char) (h : word <:+: s) :
    (replaceFirst word new s).count c + word.count c = s.count c + new.count c := by
  induction s with
  | nil =>
      rw [List.infix_nil] at h
      simp [replaceFirst, h]
  | cons d rest ih =>
      rw [replaceFirst]
      split
      · next hp =>
          obtain ⟨tail, htail⟩ := List.isPrefixOf_iff_prefix.mp hp
          rw [← htail, List.drop_left, List.count_append, List.count_append]
          omega
      · next hp =>
          have hrest : word <:+: rest := by
            rcases List.infix_cons_iff.mp h with h | h
            · exact absurd (List.isPrefixOf_iff_prefix.mpr h) hp
            · exact h
          have hcount := ih hrest
          rw [List.count_cons, List.count_cons]
          omega

/-- A word without the separator that begins in a part ends in it. -/
theorem prefix_append_sep_iff {word : List Char} {sep : Char} (hsep : sep ∉ word)
    (left right : List Char) : word <+: left ++ sep :: right ↔ word <+: left := by
  constructor
  · intro h
    have hshort : word.length ≤ left.length := by
      by_contra hlong
      have hbegin : left ++ [sep] <+: word := by
        apply List.prefix_of_prefix_length_le _ h
        · simpa using by omega
        · exact ⟨right, by simp⟩
      exact hsep (hbegin.subset (by simp))
    exact List.prefix_of_prefix_length_le h (List.prefix_append left _) hshort
  · exact fun h => h.trans (List.prefix_append left _)

theorem replaceFirst_cons_eq_cons {word rest : List Char} {c : Char} (new : List Char)
    (h : ¬ word <+: c :: rest) :
    replaceFirst word new (c :: rest) = c :: replaceFirst word new rest := by
  rw [replaceFirst, if_neg fun hp => h (List.isPrefixOf_iff_prefix.mp hp)]

theorem replaceFirst_append_left {word left : List Char} {sep : Char} (hsep : sep ∉ word)
    (new right : List Char) (h : word <:+: left) :
    replaceFirst word new (left ++ sep :: right) = replaceFirst word new left ++ sep :: right := by
  induction left with
  | nil =>
      rw [List.infix_nil] at h
      simp [replaceFirst, h]
  | cons c rest ih =>
      by_cases hp : word <+: c :: rest
      · obtain ⟨tail, htail⟩ := hp
        rw [← htail, List.append_assoc, replaceFirst_append, replaceFirst_append, List.append_assoc]
      · have hrest : word <:+: rest := (List.infix_cons_iff.mp h).resolve_left hp
        have hjoined : ¬ word <+: c :: (rest ++ sep :: right) :=
          fun hj => hp ((prefix_append_sep_iff hsep (c :: rest) right).mp hj)
        rw [List.cons_append, replaceFirst_cons_eq_cons new hjoined, ih hrest,
          replaceFirst_cons_eq_cons new hp, List.cons_append]

theorem replaceFirst_append_right {word left : List Char} {sep : Char} (hsep : sep ∉ word)
    (new right : List Char) (h : ¬ word <:+: left) :
    replaceFirst word new (left ++ sep :: right) = left ++ sep :: replaceFirst word new right := by
  induction left with
  | nil =>
      have hjoined : ¬ word <+: sep :: right :=
        fun hj => h ((prefix_append_sep_iff hsep [] right).mp hj).isInfix
      rw [List.nil_append, replaceFirst_cons_eq_cons new hjoined, List.nil_append]
  | cons c rest ih =>
      have hrest : ¬ word <:+: rest := fun hr => h (List.infix_cons hr)
      have hjoined : ¬ word <+: c :: (rest ++ sep :: right) :=
        fun hj => h ((prefix_append_sep_iff hsep (c :: rest) right).mp hj).isInfix
      rw [List.cons_append, replaceFirst_cons_eq_cons new hjoined, ih hrest, List.cons_append]

/-- Replaces the first occurrence of a word in the first part that has one. -/
def replaceInFirst (word new : List Char) : List (List Char) → List (List Char)
  | [] => []
  | part :: rest =>
      if word <:+: part then replaceFirst word new part :: rest
      else part :: replaceInFirst word new rest

theorem replaceInFirst_append_right {word : List Char} (new : List Char)
    {first : List (List Char)} (second : List (List Char)) (h : ∀ part ∈ first, ¬ word <:+: part) :
    replaceInFirst word new (first ++ second) = first ++ replaceInFirst word new second := by
  induction first with
  | nil => rfl
  | cons part rest ih =>
      rw [List.cons_append, replaceInFirst, if_neg (h part List.mem_cons_self),
        ih fun other hmem => h other (List.mem_cons_of_mem _ hmem), List.cons_append]

theorem not_mem_replaceInFirst {word new : List Char} {c : Char} (hnew : c ∉ new)
    {parts : List (List Char)} (h : ∀ part ∈ parts, c ∉ part) :
    ∀ part ∈ replaceInFirst word new parts, c ∉ part := by
  induction parts with
  | nil => exact h
  | cons part rest ih =>
      have hpart := h part List.mem_cons_self
      have hrest := fun other hmem => h other (List.mem_cons_of_mem part hmem)
      intro other hmem
      rw [replaceInFirst] at hmem
      split at hmem
      · rcases List.mem_cons.mp hmem with rfl | hmem
        · exact fun hc => (mem_replaceFirst hc).elim hnew hpart
        · exact hrest other hmem
      · rcases List.mem_cons.mp hmem with rfl | hmem
        · exact hpart
        · exact ih hrest other hmem

theorem replaceInFirst_ne_nil (word new : List Char) {parts : List (List Char)} (h : parts ≠ []) :
    replaceInFirst word new parts ≠ [] := by
  cases parts with
  | nil => exact h
  | cons part rest =>
      rw [replaceInFirst]
      split <;> exact List.cons_ne_nil _ _

/-- The first occurrence in a joined text is the one in the first part that has one. -/
theorem replaceFirst_intercalate {word : List Char} {sep : Char} (hword : word ≠ [])
    (hsep : sep ∉ word) (new : List Char) (parts : List (List Char)) :
    replaceFirst word new ([sep].intercalate parts) =
      [sep].intercalate (replaceInFirst word new parts) := by
  induction parts with
  | nil => simp [replaceFirst, replaceInFirst, hword]
  | cons part rest ih =>
      cases rest with
      | nil =>
          rw [List.intercalate_singleton, replaceInFirst]
          split
          · rw [List.intercalate_singleton]
          · next h => rw [replaceFirst_eq_self word new part h, replaceInFirst,
              List.intercalate_singleton]
      | cons next others =>
          rw [List.intercalate_cons_cons, List.append_assoc, List.singleton_append, replaceInFirst]
          split
          · next h =>
              rw [replaceFirst_append_left hsep new _ h, List.intercalate_cons_cons,
                List.append_assoc, List.singleton_append]
          · next h =>
              have hne := replaceInFirst_ne_nil word new (List.cons_ne_nil next others)
              rw [replaceFirst_append_right hsep new _ h, ih,
                List.intercalate_cons_of_ne_nil hne, List.append_assoc, List.singleton_append]

end SwaggerGen.Text
