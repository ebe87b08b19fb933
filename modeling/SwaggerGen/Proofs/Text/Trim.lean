import Mathlib.Data.List.Infix
import Mathlib.Data.List.TakeWhile
import SwaggerGen.Text.Blank

/-!
# Texts without blanks around them

Trimming a text leaves one that neither begins nor ends with a blank, and leaves such a text as it is.
-/

namespace SwaggerGen.Text

/-- Whether a text neither begins nor ends with a blank. -/
structure Trimmed (s : List Char) : Prop where
  head? : ∀ c ∈ s.head?, isBlank c = false
  getLast? : ∀ c ∈ s.getLast?, isBlank c = false

theorem trimStart_eq_self {s : List Char} (h : ∀ c ∈ s.head?, isBlank c = false) :
    trimStart s = s := by
  cases s with
  | nil => rfl
  | cons c rest =>
      have hc : ¬ isBlank c = true := by simp [h c rfl]
      exact List.dropWhile_cons_of_neg hc

theorem head?_trimStart (s : List Char) : ∀ c ∈ (trimStart s).head?, isBlank c = false := by
  intro c hc
  have hnot := List.head?_dropWhile_not isBlank s
  rw [trimStart] at hc
  rw [hc] at hnot
  exact hnot

theorem trimEnd_eq_self {s : List Char} (h : ∀ c ∈ s.getLast?, isBlank c = false) :
    trimEnd s = s := by
  rw [trimEnd, trimStart_eq_self, List.reverse_reverse]
  rwa [List.head?_reverse]

theorem getLast?_trimEnd (s : List Char) : ∀ c ∈ (trimEnd s).getLast?, isBlank c = false := by
  intro c hc
  rw [trimEnd, List.getLast?_reverse] at hc
  exact head?_trimStart s.reverse c hc

theorem trimEnd_isPrefix_self (s : List Char) : trimEnd s <+: s := by
  rw [← List.reverse_suffix, trimEnd, List.reverse_reverse]
  exact List.dropWhile_suffix isBlank

theorem Trimmed.trim_eq_self {s : List Char} (h : Trimmed s) : trim s = s := by
  rw [trim, trimStart_eq_self h.head?, trimEnd_eq_self h.getLast?]

theorem trimmed_trim (s : List Char) : Trimmed (trim s) where
  head? := by
    intro c hc
    obtain ⟨rest, hrest⟩ := List.head?_eq_some_iff.mp hc
    apply head?_trimStart s c
    obtain ⟨tail, htail⟩ := trimEnd_isPrefix_self (trimStart s)
    rw [← htail, ← trim, hrest]
    rfl
  getLast? := getLast?_trimEnd (trimStart s)

instance (s : List Char) : Decidable (Trimmed s) :=
  decidable_of_iff (trim s = s) ⟨fun h => h ▸ trimmed_trim s, Trimmed.trim_eq_self⟩

theorem mem_of_mem_trim {s : List Char} {c : Char} (h : c ∈ trim s) : c ∈ s :=
  (List.dropWhile_sublist isBlank).subset ((trimEnd_isPrefix_self (trimStart s)).subset h)

theorem trimStart_append {before : List Char} (h : ∀ c ∈ before, isBlank c) (s : List Char) :
    trimStart (before ++ s) = trimStart s :=
  List.dropWhile_append_of_pos h

theorem trimEnd_append {after : List Char} (h : ∀ c ∈ after, isBlank c) (s : List Char) :
    trimEnd (s ++ after) = trimEnd s := by
  rw [trimEnd, List.reverse_append, trimStart_append (by simpa using h), trimEnd]

theorem exists_blanks_append_trimStart (s : List Char) :
    ∃ before, (∀ c ∈ before, isBlank c) ∧ before ++ trimStart s = s :=
  ⟨s.takeWhile isBlank, fun _ hc => List.mem_takeWhile_imp hc, List.takeWhile_append_dropWhile⟩

theorem exists_trimEnd_append_blanks (s : List Char) :
    ∃ after, (∀ c ∈ after, isBlank c) ∧ trimEnd s ++ after = s := by
  obtain ⟨before, hbefore, hs⟩ := exists_blanks_append_trimStart s.reverse
  refine ⟨before.reverse, by simpa using hbefore, ?_⟩
  rw [trimEnd, ← List.reverse_append, hs, List.reverse_reverse]

/-- Nothing is left of a text of blanks, and of no other. -/
theorem trim_eq_nil_iff (s : List Char) : trim s = [] ↔ ∀ c ∈ s, isBlank c := by
  have hstart : ∀ t : List Char, trimStart t = [] ↔ ∀ c ∈ t, isBlank c :=
    fun t => List.dropWhile_eq_nil_iff
  have hend : trim s = [] ↔ trimStart s = [] := by
    rw [trim, trimEnd, List.reverse_eq_nil_iff, hstart]
    cases hs : trimStart s with
    | nil => simp
    | cons c rest =>
        have hc := head?_trimStart s c (by rw [hs]; rfl)
        simp [hc]
  rw [hend, hstart]

/-- What is left of a text is the part without blanks around it that has only blanks around it. -/
theorem trim_eq_iff (s t : List Char) :
    trim s = t ↔
      Trimmed t ∧ ∃ before after, (∀ c ∈ before, isBlank c) ∧ (∀ c ∈ after, isBlank c) ∧
      before ++ t ++ after = s := by
  constructor
  · rintro rfl
    obtain ⟨before, hbefore, hs⟩ := exists_blanks_append_trimStart s
    obtain ⟨after, hafter, ht⟩ := exists_trimEnd_append_blanks (trimStart s)
    refine ⟨trimmed_trim s, before, after, hbefore, hafter, ?_⟩
    rw [List.append_assoc, trim, ht, hs]
  · rintro ⟨htrimmed, before, after, hbefore, hafter, rfl⟩
    rw [List.append_assoc, trim, trimStart_append hbefore]
    cases t with
    | nil =>
        rw [List.nil_append, ← trim, trim_eq_nil_iff]
        exact hafter
    | cons c t =>
        have hstart : trimStart (c :: t ++ after) = c :: t ++ after := by
          apply trimStart_eq_self
          exact htrimmed.head?
        rw [hstart, trimEnd_append hafter, trimEnd_eq_self htrimmed.getLast?]

end SwaggerGen.Text
