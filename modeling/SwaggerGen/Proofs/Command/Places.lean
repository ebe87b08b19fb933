import SwaggerGen.Command.FileTree
import SwaggerGen.Proofs.Except

/-!
# Places of files

Following a path name looks at directories alone. So a tree that shows all the directories of another one
leads a path name to the same place, and a file that is written is found under the name it was written
to, with all other files as they were. Making directories touches no file.
-/

namespace SwaggerGen.Command

namespace FileTree

variable {File : Type} [Storage File] {tree other after : FileTree File}
variable {place start : Place} {path : PathName} {text : String}

theorem permit_eq_ok_iff {access : Access} :
    tree.permit access place = .ok () ↔
      Storage.refusal? access place (tree.file? place) = none := by
  rw [permit]
  cases Storage.refusal? access place (tree.file? place) <;> simp

/-- Whether there is a directory at a place that may be entered. -/
structure Enterable (tree : FileTree File) (place : Place) : Prop where
  file? : tree.file? place = none
  isDirectory : tree.isDirectory place = true
  permitted : Storage.refusal? .enter place (none : Option File) = none

theorem requireDirectory_eq_ok_iff :
    tree.requireDirectory place = .ok () ↔ tree.Enterable place := by
  rw [requireDirectory]
  cases hfile : tree.file? place with
  | some file =>
      rw [Option.isSome_some, if_pos rfl]
      exact iff_of_false nofun fun h => by simp [h.file?] at hfile
  | none =>
      rw [Option.isSome_none, if_neg Bool.false_ne_true]
      cases hdirectory : tree.isDirectory place with
      | false =>
          rw [if_neg Bool.false_ne_true]
          exact iff_of_false nofun fun h => by simp [h.isDirectory] at hdirectory
      | true =>
          rw [if_pos rfl, permit_eq_ok_iff, hfile]
          exact ⟨fun h => ⟨hfile, hdirectory, h⟩, Enterable.permitted⟩

/-- Where a segment leads to from a directory. -/
def nextPlace (place : Place) (segment : String) : Except IoFault Place :=
  if segment = "." then .ok place
  else if segment = ".." then .ok place.dropLast
  else if nameLimit < segment.utf8ByteSize then .error .nameTooLong
  else .ok (place ++ [segment])

theorem enter_eq_ok_iff {segment : String} {next : Place} :
    tree.enter place segment = .ok next ↔ tree.Enterable place ∧ nextPlace place segment = .ok next := by
  rw [enter, Except.bind_eq_ok_iff, ← requireDirectory_eq_ok_iff]
  exact ⟨fun ⟨_, hrequire, hnext⟩ => ⟨hrequire, hnext⟩, fun ⟨hrequire, hnext⟩ => ⟨_, hrequire, hnext⟩⟩

theorem follow_append_eq_ok_iff {first second : List String} :
    tree.follow start (first ++ second) = .ok place ↔
      ∃ between, tree.follow start first = .ok between ∧ tree.follow between second = .ok place := by
  rw [follow, List.foldlM_append, Except.bind_eq_ok_iff]
  rfl

theorem follow_singleton {segment : String} :
    tree.follow start [segment] = tree.enter start segment := by
  rw [follow, List.foldlM_cons]
  cases tree.enter start segment <;> rfl

/-- A path leads to the same place in a tree with the same directories and maybe more. -/
theorem follow_of_enterable (h : ∀ place, tree.Enterable place → other.Enterable place)
    {segments : List String} (hfollow : tree.follow start segments = .ok place) :
    other.follow start segments = .ok place := by
  induction segments generalizing start with
  | nil => exact hfollow
  | cons segment rest ih =>
      obtain ⟨next, hnext, hrest⟩ := Except.foldlM_cons_eq_ok_iff.mp hfollow
      obtain ⟨henterable, hnext⟩ := enter_eq_ok_iff.mp hnext
      exact Except.foldlM_cons_eq_ok_iff.mpr
        ⟨next, enter_eq_ok_iff.mpr ⟨h start henterable, hnext⟩, ih hrest⟩

theorem read_eq_ok_iff {bytes : ByteArray} :
    tree.read path = .ok bytes ↔
      ∃ place file, tree.locate path = .ok place ∧ tree.file? place = some file ∧
        path.asDirectory = false ∧ Storage.refusal? .read place (some file) = none ∧
        Storage.bytes file = bytes := by
  rw [read, Except.bind_eq_ok_iff]
  constructor
  · rintro ⟨place, hplace, h⟩
    split at h
    · next file hfile =>
        obtain ⟨hdirectory, h⟩ := Except.ite_error_eq_ok_iff.mp h
        obtain ⟨⟨⟩, hpermit, h⟩ := Except.bind_eq_ok_iff.mp h
        rw [permit_eq_ok_iff, hfile] at hpermit
        exact ⟨place, file, hplace, hfile, Bool.eq_false_iff.mpr hdirectory, hpermit,
          Except.ok.inj h⟩
    · cases h
  · rintro ⟨place, file, hplace, hfile, hdirectory, hpermit, hbytes⟩
    refine ⟨place, hplace, ?_⟩
    rw [hfile]
    refine Except.ite_error_eq_ok_iff.mpr ⟨Bool.eq_false_iff.mp hdirectory, ?_⟩
    refine Except.bind_eq_ok_iff.mpr ⟨(), ?_, congrArg Except.ok hbytes⟩
    rw [permit_eq_ok_iff, hfile, hpermit]

theorem contains_of_read {bytes : ByteArray} (h : tree.read path = .ok bytes) : tree.contains path = true := by
  obtain ⟨place, file, hplace, hfile, hdirectory, -⟩ := read_eq_ok_iff.mp h
  simp [contains, hplace, hfile, hdirectory]

/-- Whether a path name leads to a place where the system lets a file be written. -/
structure Writable (tree : FileTree File) (path : PathName) (place : Place) : Prop where
  isEmpty : path.isEmpty = false
  isTooLong : path.isTooLong = false
  asDirectory : path.asDirectory = false
  segments : ∃ above name parent, path.segments = above ++ [name] ∧ isDots name = false ∧
    tree.follow (tree.start path) above = .ok parent ∧ tree.enter parent name = .ok place
  isDirectory : tree.isDirectory place = false
  permitted : Storage.refusal? .write place (tree.file? place) = none

theorem writable_of_eq_ok (h : tree.writable path = .ok place) : tree.Writable path place := by
  rw [writable, Except.ite_error_eq_ok_iff, Except.ite_error_eq_ok_iff] at h
  obtain ⟨hempty, hlong, h⟩ := h
  split at h
  · cases h
  · next name above hsegments =>
      obtain ⟨parent, hparent, h⟩ := Except.bind_eq_ok_iff.mp h
      obtain ⟨-, -, h⟩ := Except.bind_eq_ok_iff.mp h
      obtain ⟨hname, h⟩ := Except.ite_error_eq_ok_iff.mp h
      obtain ⟨last, hlast, h⟩ := Except.bind_eq_ok_iff.mp h
      obtain ⟨hdirectory, h⟩ := Except.ite_error_eq_ok_iff.mp h
      obtain ⟨⟨⟩, hpermit, h⟩ := Except.bind_eq_ok_iff.mp h
      cases h
      rw [Bool.or_eq_true, not_or] at hname
      have hpath : path.segments = above.reverse ++ [name] := by
        rw [← List.reverse_cons, ← hsegments, List.reverse_reverse]
      exact {
        isEmpty := Bool.eq_false_iff.mpr hempty
        isTooLong := Bool.eq_false_iff.mpr hlong
        asDirectory := Bool.eq_false_iff.mpr hname.2
        segments := ⟨above.reverse, name, parent, hpath, Bool.eq_false_iff.mpr hname.1, hparent, hlast⟩
        isDirectory := Bool.eq_false_iff.mpr hdirectory
        permitted := permit_eq_ok_iff.mp hpermit }

theorem Writable.follow (h : tree.Writable path place) :
    tree.follow (tree.start path) path.segments = .ok place := by
  obtain ⟨above, name, parent, hsegments, -, hparent, hname⟩ := h.segments
  rw [hsegments, follow_append_eq_ok_iff]
  exact ⟨parent, hparent, follow_singleton.trans hname⟩

theorem write_eq_ok_iff :
    tree.write path text = .ok after ↔
      ∃ place, tree.writable path = .ok place ∧ tree.put place text = after := by
  rw [write, Except.map_eq_ok_iff]

omit [Storage File] in
theorem exists_mem_putEntry (place : Place) (file : File) {files : List (Place × File)}
    {entry : Place × File} (h : entry ∈ files) :
    ∃ found ∈ putEntry place file files, found.1 = entry.1 := by
  induction files with
  | nil => exact absurd h List.not_mem_nil
  | cons first rest ih =>
      rw [putEntry]
      split
      · next heq =>
          rcases List.mem_cons.mp h with rfl | h
          · exact ⟨_, List.mem_cons_self, heq.symm⟩
          · exact ⟨entry, List.mem_cons_of_mem _ h, rfl⟩
      · rcases List.mem_cons.mp h with rfl | h
        · exact ⟨_, List.mem_cons_self, rfl⟩
        · obtain ⟨found, hfound, heq⟩ := ih h
          exact ⟨found, List.mem_cons_of_mem _ hfound, heq⟩

theorem isDirectory_put {directory : Place} (h : tree.isDirectory directory = true) :
    (tree.put place text).isDirectory directory = true := by
  simp only [isDirectory, Bool.or_eq_true, List.any_eq_true] at h ⊢
  refine h.imp_right ?_
  rintro ⟨entry, hentry, hbelow⟩
  obtain ⟨found, hfound, heq⟩ := exists_mem_putEntry place _ hentry
  exact ⟨found, hfound, by rw [heq]; exact hbelow⟩

theorem Enterable.put {directory : Place} (h : tree.Enterable directory)
    (hplace : tree.isDirectory place = false) : (tree.put place text).Enterable directory where
  file? := by
    have hne : directory ≠ place := by
      rintro rfl
      rw [h.isDirectory] at hplace
      cases hplace
    rw [file?_put, if_neg hne, h.file?]
  isDirectory := isDirectory_put h.isDirectory
  permitted := h.permitted

/-- What is written to a path name is found under it. -/
theorem Writable.locate_put (h : tree.Writable path place) :
    (tree.put place text).locate path = .ok place := by
  rw [locate, if_neg (by simp [h.isEmpty]), if_neg (by simp [h.isTooLong])]
  exact follow_of_enterable (fun _ henterable => henterable.put h.isDirectory) h.follow

theorem files_makeDirectory (h : tree.makeDirectory path = .ok after) : after.files = tree.files := by
  rw [makeDirectory, Except.ite_error_eq_ok_iff, Except.ite_error_eq_ok_iff] at h
  obtain ⟨-, -, h⟩ := h
  split at h
  · cases h
  · obtain ⟨parent, -, h⟩ := Except.bind_eq_ok_iff.mp h
    obtain ⟨place, -, h⟩ := Except.bind_eq_ok_iff.mp h
    obtain ⟨-, h⟩ := Except.ite_error_eq_ok_iff.mp h
    obtain ⟨-, -, h⟩ := Except.bind_eq_ok_iff.mp h
    cases h
    rfl

end FileTree

end SwaggerGen.Command
