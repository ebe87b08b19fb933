import SwaggerGen.Command.Generate
import SwaggerGen.Proofs.Command.Places

/-!
# Actions on a machine

What an action does to a machine, put together from what its parts do. Making directories keeps every file
and prints nothing.
-/

namespace SwaggerGen.Command

namespace Machine

variable {File ε δ α β : Type} {machine : Machine File}

/-- The result of an action on a machine, and the machine afterwards. -/
def run (machine : Machine File) (action : Action File ε α) : Except ε α × Machine File :=
  StateT.run action.run machine

theorem run_bind (first : Action File ε α) (next : α → Action File ε β) :
    machine.run (first >>= next) =
      match machine.run first with
      | (.ok value, after) => after.run (next value)
      | (.error fault, after) => (.error fault, after) := by
  rw [run, run, ExceptT.run_bind, StateT.run_bind]
  obtain ⟨result, after⟩ := StateT.run first.run machine
  cases result <;> rfl

theorem run_tryCatch (first : Action File ε α) (rescue : ε → Action File ε α) :
    machine.run (tryCatch first rescue) =
      match machine.run first with
      | (.ok value, after) => (.ok value, after)
      | (.error fault, after) => after.run (rescue fault) := by
  rw [run, run, ExceptT.run_tryCatch, StateT.run_bind]
  obtain ⟨result, after⟩ := StateT.run first.run machine
  cases result <;> rfl

theorem run_adapt (f : ε → δ) (action : Action File ε α) :
    machine.run (ExceptT.adapt f action) =
      ((machine.run action).1.mapError f, (machine.run action).2) := rfl

theorem run_changeTree (change : FileTree File → Except IoFault (FileTree File)) :
    machine.run (changeTree change) =
      match change machine.tree with
      | .ok tree => (.ok (), { machine with tree })
      | .error fault => (.error fault, machine) := by
  have hget : machine.run (get : Action File IoFault (Machine File)) = (.ok machine, machine) := rfl
  rw [changeTree, run_bind, hget]
  cases h : change machine.tree with
  | error fault => simp only [run_bind, h]; rfl
  | ok tree => simp only [run_bind, h]; rfl

theorem run_contains [Storage File] (path : PathName) :
    machine.run (liftM (Host.contains path : StateM (Machine File) Bool) : Action File ε Bool) =
      (.ok (machine.tree.contains path), machine) := rfl

theorem run_writeFile [Storage File] (path : PathName) (text : String) :
    machine.run (Host.writeFile path text) =
      match machine.tree.write path text with
      | .ok tree => (.ok (), { machine with tree })
      | .error fault => (.error fault, machine) := run_changeTree _

/-- Two machines with the same files that have printed the same. -/
structure Frame (before after : Machine File) : Prop where
  files : after.tree.files = before.tree.files
  stdout : after.stdout = before.stdout

theorem Frame.refl (machine : Machine File) : Frame machine machine := ⟨rfl, rfl⟩

theorem Frame.trans {first second third : Machine File} (h : Frame first second)
    (h' : Frame second third) : Frame first third :=
  ⟨h'.files.trans h.files, h'.stdout.trans h.stdout⟩

/-- Whether an action keeps the files of every machine and prints nothing, even where it is refused. -/
def Spares (action : Action File ε α) : Prop := ∀ machine, Frame machine (machine.run action).2

theorem spares_pure (value : α) : Spares (pure value : Action File ε α) := Frame.refl

theorem spares_throw (fault : ε) : Spares (throw fault : Action File ε α) := Frame.refl

theorem Spares.bind {first : Action File ε α} {next : α → Action File ε β} (hfirst : Spares first)
    (hnext : ∀ value, Spares (next value)) : Spares (first >>= next) := by
  intro machine
  have h := hfirst machine
  rw [run_bind]
  split
  · next value after heq =>
      rw [heq] at h
      exact h.trans (hnext value after)
  · next fault after heq => rwa [heq] at h

theorem Spares.tryCatch {first : Action File ε α} {rescue : ε → Action File ε α}
    (hfirst : Spares first) (hrescue : ∀ fault, Spares (rescue fault)) :
    Spares (tryCatch first rescue) := by
  intro machine
  have h := hfirst machine
  rw [run_tryCatch]
  split
  · next value after heq => rwa [heq] at h
  · next fault after heq =>
      rw [heq] at h
      exact h.trans (hrescue fault after)

theorem spares_changeTree {change : FileTree File → Except IoFault (FileTree File)}
    (h : ∀ {tree after : FileTree File}, change tree = .ok after → after.files = tree.files) :
    Spares (changeTree change) := by
  intro machine
  rw [run_changeTree]
  split
  · next tree heq => exact ⟨h heq, rfl⟩
  · exact Frame.refl machine

end Machine

namespace Host

open Machine

variable {File : Type} [Storage File]

theorem spares_ensureDirectory (path : PathName) :
    Spares (ensureDirectory path : Action File IoFault Unit) := by
  refine (spares_changeTree FileTree.files_makeDirectory).tryCatch fun fault => ?_
  refine Spares.bind (fun machine => Frame.refl machine) fun found => ?_
  split
  · exact spares_pure ()
  · exact spares_throw fault

theorem spares_makeDirectories (absolute : Bool) (pieces : List String) :
    Spares (makeDirectories absolute pieces : Action File IoFault Unit) := by
  induction pieces with
  | nil => exact spares_pure ()
  | cons piece above ih =>
      rw [makeDirectories]
      split
      · exact ih
      · refine (spares_ensureDirectory _).tryCatch fun fault => ?_
        split
        · exact ih.bind fun _ => spares_ensureDirectory _
        · exact spares_throw fault

end Host

namespace Request

open Machine

variable {File : Type} [Storage File]

theorem spares_prepare (path : PathName) :
    Spares (prepare path : Action File IoFault Unit) := by
  rw [prepare]
  split
  · exact spares_pure ()
  · refine Spares.bind (fun machine => Frame.refl machine) fun found => ?_
    split
    · exact spares_pure ()
    · exact Host.spares_makeDirectories _ _

end Request

end SwaggerGen.Command
