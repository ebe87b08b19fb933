import SwaggerGen.Proofs.PathTemplate.Segments

/-!
# Paths back from templates

A step puts a mark in braces, perhaps not the one of its own segment, but with the braces turned back
the text reads the same before and after it. So a path without braces is what its template shows, and
it shares its template with no other such path.
-/

namespace SwaggerGen.PathTemplate

/-- A text with neither an opening nor a closing brace. -/
def BraceFree (s : List Char) : Prop := '{' ∉ s ∧ '}' ∉ s

instance (s : List Char) : Decidable (BraceFree s) := inferInstanceAs (Decidable (_ ∧ _))

theorem BraceFree.of_subset {s t : List Char} (h : BraceFree s) (hsubset : t ⊆ s) : BraceFree t :=
  ⟨fun hopen => h.1 (hsubset hopen), fun hclose => h.2 (hsubset hclose)⟩

theorem BraceFree.unbraced_mark {name : List Char} (h : BraceFree name) :
    unbraced (mark name) = mark name := by
  apply unbraced_eq_self
  · simp [mark, h.1]
  · simp [mark, h.2]

theorem BraceFree.of_mem_parameterNames {path name : List Char} (h : BraceFree path)
    (hname : name ∈ parameterNames path) : BraceFree name := by
  obtain ⟨segment, hsegment, hsome⟩ := List.mem_filterMap.mp hname
  rw [parameterName?_eq_some_iff] at hsome
  subst hsome
  have hpath : ['/'].intercalate (segments path) = path := List.intercalate_splitOn '/'
  have hinfix := Text.infix_intercalate ['/'] hsegment
  rw [hpath] at hinfix
  exact h.of_subset fun c hc => hinfix.subset (List.mem_cons_of_mem ':' hc)

/-- A replacement by a word that shows the same path keeps the path that a text shows. -/
theorem unbraced_replaceFirst {word new : List Char} (h : unbraced new = unbraced word)
    (s : List Char) : unbraced (Text.replaceFirst word new s) = unbraced s := by
  induction s with
  | nil =>
      rw [Text.replaceFirst]
      split
      · next hword => rw [h, hword]
      · rfl
  | cons c rest ih =>
      rw [Text.replaceFirst]
      split
      · next hp =>
          obtain ⟨tail, htail⟩ := List.isPrefixOf_iff_prefix.mp hp
          rw [← htail, List.drop_left, unbraced_append, unbraced_append, h]
      · change unbraced ([c] ++ _) = unbraced ([c] ++ _)
        rw [unbraced_append, unbraced_append, ih]

theorem unbraced_foldl_braceMark {names : List (List Char)} (h : ∀ name ∈ names, BraceFree name)
    (template : List Char) : unbraced (names.foldl braceMark template) = unbraced template := by
  induction names generalizing template with
  | nil => rfl
  | cons name rest ih =>
      have hname := h name List.mem_cons_self
      have hbraced : unbraced (braced name) = unbraced (mark name) := by
        rw [hname.unbraced_mark]
        exact unbraced_braced name hname.1 hname.2
      rw [List.foldl_cons, ih fun other hmem => h other (List.mem_cons_of_mem _ hmem)]
      exact unbraced_replaceFirst hbraced template

theorem unbraced_ofPath {path : String} (h : BraceFree path.toList) :
    unbraced (ofPath path).toList = path.toList := by
  rw [ofPath, String.toList_ofList, braceMarks,
    unbraced_foldl_braceMark fun name hmem => h.of_mem_parameterNames hmem]
  exact unbraced_eq_self path.toList h.1 h.2

theorem eq_of_ofPath_eq {p q : String} (hp : BraceFree p.toList) (hq : BraceFree q.toList)
    (h : ofPath p = ofPath q) : p = q := by
  rw [← String.toList_inj, ← unbraced_ofPath hp, h, unbraced_ofPath hq]

end SwaggerGen.PathTemplate
