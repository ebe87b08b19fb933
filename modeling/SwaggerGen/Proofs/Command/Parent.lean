import SwaggerGen.Proofs.Command.Places

/-!
# The directory of a file

The path name of the directory that a file stands in is a part of the file's own, so it leads to a
directory whenever the file can be written.
-/

namespace SwaggerGen.Command

namespace PathName

theorem fromComponent_suffix (absolute : Bool) (pieces : List String) :
    fromComponent absolute pieces <:+ pieces := by
  fun_induction fromComponent absolute pieces with
  | case1 => exact List.suffix_rfl
  | case2 piece above _ ih => exact ih.trans (List.suffix_cons piece above)
  | case3 => exact List.suffix_rfl

theorem ne_empty_of_fromComponent {absolute : Bool} {pieces above : List String} {piece : String}
    (h : fromComponent absolute pieces = piece :: above) : piece ≠ "" := by
  fun_induction fromComponent absolute pieces with
  | case1 => cases h
  | case2 _ _ _ ih => exact ih h
  | case3 first _ hfirst =>
      obtain ⟨rfl, -⟩ := List.cons.inj h
      rintro rfl
      exact hfirst rfl

variable {path parent : PathName}

/-- The name of the directory is what the path name begins with, and something follows it. -/
theorem pieces_of_parent? (h : path.parent? = some parent) :
    parent.absolute = path.absolute ∧ (∃ piece ∈ parent.pieces, piece ≠ "") ∧
      ∃ rest, path.pieces = parent.pieces ++ rest ∧ ∃ piece ∈ rest, piece ≠ "" := by
  rw [parent?] at h
  split at h
  · cases h
  · next name above hname =>
      split at h
      · cases h
      · next pieces hpieces =>
          cases h
          obtain ⟨last, others, hlast⟩ := List.exists_cons_of_ne_nil hpieces
          have hne := ne_empty_of_fromComponent hlast
          have habove := fromComponent_suffix path.absolute above
          have hall := fromComponent_suffix path.absolute path.pieces.reverse
          rw [hname] at hall
          obtain ⟨second, habove⟩ := habove
          obtain ⟨first, hall⟩ := hall
          have hsplit : first ++ name :: second ++ fromComponent path.absolute above =
              path.pieces.reverse := by
            rw [List.append_assoc, List.cons_append, habove, hall]
          refine ⟨rfl, ⟨last, by simp [hlast], hne⟩, (first ++ name :: second).reverse, ?_,
            name, by simp, ne_empty_of_fromComponent hname⟩
          rw [← List.reverse_append, hsplit, List.reverse_reverse]

theorem utf8ByteSize_text_le {rest : List String} (habsolute : parent.absolute = path.absolute)
    (hpieces : path.pieces = parent.pieces ++ rest) (hparent : parent.pieces ≠ [])
    (hrest : rest ≠ []) : parent.text.utf8ByteSize ≤ path.text.utf8ByteSize := by
  rw [text, text, hpieces, habsolute, String.intercalate_append_of_ne_nil hparent hrest]
  simp only [String.utf8ByteSize_append]
  omega

end PathName

namespace FileTree

variable {File : Type} [Storage File] {tree : FileTree File} {place start : Place}

/-- A place from which a path name leads on is a directory. -/
theorem isDirectory_of_follow {segments : List String} (hne : segments ≠ [])
    (h : tree.follow start segments = .ok place) : tree.isDirectory start = true := by
  obtain ⟨segment, rest, rfl⟩ := List.exists_cons_of_ne_nil hne
  obtain ⟨next, hnext, -⟩ := Except.foldlM_cons_eq_ok_iff.mp h
  exact (enter_eq_ok_iff.mp hnext).1.isDirectory

theorem Writable.contains_parent {path parent : PathName} (h : tree.Writable path place)
    (hparent : path.parent? = some parent) : tree.contains parent = true := by
  obtain ⟨habsolute, ⟨piece, hpiece, hne⟩, rest, hpieces, last, hlast, hlastne⟩ :=
    PathName.pieces_of_parent? hparent
  have hempty : parent.isEmpty = false := by
    rw [PathName.isEmpty, Bool.and_eq_false_imp]
    intro _
    refine beq_false_of_ne fun heq => hne ?_
    rw [heq] at hpiece
    exact List.mem_singleton.mp hpiece
  have hlong : parent.isTooLong = false := by
    have hsize := PathName.utf8ByteSize_text_le habsolute hpieces (List.ne_nil_of_mem hpiece)
      (List.ne_nil_of_mem hlast)
    have hlimit := h.isTooLong
    rw [PathName.isTooLong, decide_eq_false_iff_not] at hlimit ⊢
    omega
  have hstart : tree.start parent = tree.start path := by rw [start, start, habsolute]
  have hsegments : path.segments = parent.segments ++ rest.filter (· ≠ "") := by
    rw [PathName.segments, PathName.segments, hpieces, List.filter_append]
  have hfollow := h.follow
  rw [hsegments, follow_append_eq_ok_iff] at hfollow
  obtain ⟨directory, hdirectory, hrest⟩ := hfollow
  have hlocate : tree.locate parent = .ok directory := by
    rw [locate, if_neg (by simp [hempty]), if_neg (by simp [hlong]), hstart, hdirectory]
  have hne : rest.filter (· ≠ "") ≠ [] :=
    List.ne_nil_of_mem (List.mem_filter.mpr ⟨hlast, decide_eq_true hlastne⟩)
  simp [contains, hlocate, isDirectory_of_follow hne hrest]

end FileTree

end SwaggerGen.Command
