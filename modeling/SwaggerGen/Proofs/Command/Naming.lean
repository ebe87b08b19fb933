import SwaggerGen.Command.PathName
import Mathlib.Logic.Basic

/-!
# Names of files

A path name is written as it was read. Its extension is what follows the last dot of its file name, and
slashes and single dots behind that name change nothing.
-/

namespace SwaggerGen.Command.PathName

variable {path : PathName} {name extension : String}

/-- Whether the file name of a path name is something, a dot and an extension. -/
def HasExtension (path : PathName) (extension : String) : Prop :=
  ∃ front stem back, path.pieces = front ++ (stem ++ "." ++ extension) :: back ∧ stem ≠ "" ∧
    ∀ piece ∈ back, piece = "" ∨ piece = "."

/-- The last component is the last piece that is neither empty nor a single dot. -/
theorem getLast?_components (hname : name ≠ ".") :
    path.components.getLast? = some name ↔
      (path.segments.filter (· ≠ ".")).getLast? = some name := by
  rw [components]
  split
  · next rest _ hrest =>
      rw [hrest, List.filter_cons_of_neg (by simp)]
      cases rest.filter (· ≠ ".") with
      | nil => simp [hname.symm]
      | cons => rw [List.getLast?_cons_cons]
  · rfl

theorem getLast?_components_iff (hname : name ≠ ".") (hempty : name ≠ "") :
    path.components.getLast? = some name ↔
      ∃ front back, path.pieces = front ++ name :: back ∧ ∀ piece ∈ back, piece = "" ∨ piece = "." := by
  rw [getLast?_components hname, segments, List.filter_filter, List.getLast?_eq_head?_reverse,
    ← List.filter_reverse, List.head?_filter, List.find?_eq_some_iff_append]
  constructor
  · rintro ⟨-, back, front, hpieces, hback⟩
    refine ⟨front.reverse, back.reverse, ?_, fun piece hpiece => ?_⟩
    · rw [← List.reverse_reverse path.pieces, hpieces]
      simp
    · have h := hback piece (List.mem_reverse.mp hpiece)
      simp only [Bool.not_and, Bool.or_eq_true, Bool.not_eq_true', decide_eq_false_iff_not,
        not_not] at h
      exact h.symm
  · rintro ⟨front, back, hpieces, hback⟩
    refine ⟨by simp [hname, hempty], back.reverse, front.reverse, by simp [hpieces], fun piece hpiece => ?_⟩
    rcases hback piece (List.mem_reverse.mp hpiece) with rfl | rfl <;> rfl

/-- A reversed name has an extension in front of its first dot if something is behind the dot. -/
theorem takeWhile_eq_iff_of_dot {s extension : List Char} (hextension : '.' ∉ extension) :
    (∃ dot first above, s.dropWhile (· != '.') = dot :: first :: above ∧
      s.takeWhile (· != '.') = extension) ↔ ∃ stem, stem ≠ [] ∧ s = extension ++ '.' :: stem := by
  constructor
  · rintro ⟨dot, first, above, hdrop, rfl⟩
    have hdot : dot = '.' := by
      have h := List.head?_dropWhile_not (· != '.') s
      rw [hdrop] at h
      simpa using h
    subst hdot
    refine ⟨first :: above, List.cons_ne_nil _ _, ?_⟩
    rw [← hdrop, List.takeWhile_append_dropWhile]
  · rintro ⟨stem, hstem, rfl⟩
    obtain ⟨first, above, rfl⟩ := List.exists_cons_of_ne_nil hstem
    have hall : ∀ c ∈ extension, (c != '.') = true := by
      intro c hc
      exact bne_iff_ne.mpr fun heq => hextension (heq ▸ hc)
    refine ⟨'.', first, above, ?_, ?_⟩
    · rw [List.dropWhile_append_of_pos hall]
      rfl
    · rw [List.takeWhile_append_of_pos hall]
      simp

theorem extension?_eq_some_iff (hextension : '.' ∉ extension.toList) (hne : extension ≠ "") :
    path.extension? = some extension ↔ path.HasExtension extension := by
  have hreverse : '.' ∉ extension.toList.reverse := fun h => hextension (List.mem_reverse.mp h)
  rw [extension?]
  constructor
  · intro h
    split at h
    · cases h
    · next name hlast =>
        split at h
        · cases h
        · next hdots =>
            obtain ⟨hdot, -⟩ := not_or.mp hdots
            dsimp only at h
            split at h
            · next dot first above hdrop =>
                have hstem := (takeWhile_eq_iff_of_dot hreverse).mp
                  ⟨dot, first, above, hdrop, by rw [← Option.some.inj h]; simp⟩
                obtain ⟨stem, hstem, hname⟩ := hstem
                have hname : name = String.ofList stem.reverse ++ "." ++ extension := by
                  rw [← String.toList_inj, ← List.reverse_inj, hname]
                  simp
                have hempty : name ≠ "" := by
                  rintro rfl
                  simp at hdrop
                obtain ⟨front, back, hpieces, hback⟩ := (getLast?_components_iff hdot hempty).mp hlast
                refine ⟨front, String.ofList stem.reverse, back, hname ▸ hpieces, ?_, hback⟩
                simpa using hstem
            · cases h
  · rintro ⟨front, stem, back, hpieces, hstem, hback⟩
    have hlong (other : String) (h : other.length < 3) : stem ++ "." ++ extension ≠ other := by
      rintro rfl
      have hfirst : 0 < stem.length := Nat.pos_of_ne_zero (String.length_eq_zero_iff.not.mpr hstem)
      have hlast : 0 < extension.length := Nat.pos_of_ne_zero (String.length_eq_zero_iff.not.mpr hne)
      have hdot : ".".length = 1 := rfl
      rw [String.length_append, String.length_append] at h
      omega
    have hdot := hlong "." (by decide)
    have hlast := (getLast?_components_iff hdot (hlong "" (by decide))).mpr ⟨front, back, hpieces, hback⟩
    have hname : (stem ++ "." ++ extension).toList.reverse =
        extension.toList.reverse ++ '.' :: stem.toList.reverse := by simp
    obtain ⟨dot, first, above, hdrop, htake⟩ := (takeWhile_eq_iff_of_dot hreverse).mpr
      ⟨stem.toList.reverse, by simpa using hstem, hname⟩
    simp only [hlast, hdot, hlong ".." (by decide), or_self, if_false, hdrop, htake,
      List.reverse_reverse, String.ofList_toList]

end SwaggerGen.Command.PathName
