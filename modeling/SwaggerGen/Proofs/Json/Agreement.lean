import SwaggerGen.Proofs.Json.Skip

/-!
# Readers that agree with what is known

A tree is read from a text, and what it is taken as is known. A reader that goes over the same text agrees
with that if it gives the value and leaves the same text, or fails where there is no value.
-/

namespace SwaggerGen.Json

/-- Whether a reader gives a value that is known and leaves a text unread, or fails where the value is not
there. How either of them fails is left open. -/
inductive Agrees {α ε : Type} (rest : List Char) :
    Except ε α → Except Fault (α × List Char) → Prop
  | ok (a : α) : Agrees rest (.ok a) (.ok (a, rest))
  | error (e : ε) (fault : Fault) : Agrees rest (.error e) (.error fault)

namespace Agrees

variable {α β ε δ : Type} {rest : List Char} {known : Except ε α}
  {read : Except Fault (α × List Char)}

theorem eq_ok (h : Agrees rest known read) {a : α} (ha : known = .ok a) : read = .ok (a, rest) := by
  cases h with
  | ok => rw [Except.ok.inj ha]
  | error => cases ha

theorem known_eq_ok (h : Agrees rest known read) {a : α} {rest' : List Char}
    (hread : read = .ok (a, rest')) : known = .ok a := by
  cases h with
  | ok => rw [(Prod.mk.inj (Except.ok.inj hread)).1]
  | error => cases hread

theorem bind {rest' : List Char} {f : α → Except ε β}
    {g : α × List Char → Except Fault (β × List Char)} (h : Agrees rest known read)
    (hnext : ∀ a, known = .ok a → Agrees rest' (f a) (g (a, rest))) :
    Agrees rest' (known >>= f) (read >>= g) := by
  cases h with
  | ok a => exact hnext a rfl
  | error e fault => exact .error e fault

theorem map (f : α → β) (h : Agrees rest known read) :
    Agrees rest (known.map f) (read.map fun r => (f r.1, r.2)) := by
  cases h with
  | ok a => exact .ok (f a)
  | error e fault => exact .error e fault

/-- Only which value is known counts. -/
theorem congr {known' : Except δ α} (h : Agrees rest known read)
    (heq : ∀ a, known = .ok a ↔ known' = .ok a) : Agrees rest known' read := by
  cases h with
  | ok a =>
      rw [(heq a).mp rfl]
      exact .ok a
  | error e fault =>
      cases known' with
      | ok a => cases (heq a).mpr rfl
      | error e => exact .error e fault

theorem enclosed {close : List Char → Except Fault (List Char)} {afterEnd : List Char → List Char}
    {inside : Reader α} {s u : List Char} (h : Agrees u known (inside s)) (hclose : close u = .ok rest) :
    Agrees rest known (enclosed close afterEnd inside s) := by
  rw [Json.enclosed]
  generalize inside s = result at h
  cases h with
  | ok a =>
      simp only [hclose]
      exact .ok a
  | error e fault => cases fault <;> exact .error e _

end Agrees

section Containers

variable {α σ ε : Type} {s rest : List Char} {first : Bool}

theorem ReadsItems.length_le {limit : Nat} {items : List Json}
    (h : ReadsItems (readTree limit) first s items rest) : items.length ≤ s.length := by
  induction h with
  | nil => exact Nat.zero_le _
  | cons hnext hitem _ ih =>
      have hlength := length_le_of_nextItem? hnext
      have hitem := length_lt_of_readTree hitem
      rw [List.length_cons]
      omega

theorem ReadsFields.length_le {limit : Nat} {fields : List (String × Json)}
    (h : ReadsFields (readTree limit) first s fields rest) : fields.length ≤ s.length := by
  induction h with
  | nil => exact Nat.zero_le _
  | cons hnext hcolon hvalue _ ih =>
      have hlength := length_lt_of_nextKey? hnext hcolon
      have hvalue := length_lt_of_readTree hvalue
      rw [List.length_cons]
      omega

variable {tree : Reader Json}

/-- Items are read one by one. -/
theorem agrees_readItems {reader : Reader α} {take : Json → Except ε α}
    (htake : ∀ t item u, tree t = .ok (item, u) → Agrees u (take item) (reader t))
    {items : List Json} (h : ReadsItems tree first s items rest) {bound : Nat}
    (hbound : items.length < bound) : Agrees rest (items.mapM take) (readItems reader bound first s) := by
  induction h generalizing bound with
  | nil hnext =>
      obtain ⟨bound, rfl⟩ := Nat.exists_eq_add_of_lt hbound
      rw [readItems, hnext]
      exact .ok []
  | cons hnext hitem _ ih =>
      obtain ⟨bound, rfl⟩ := Nat.exists_eq_add_of_lt hbound
      rw [List.mapM_cons, readItems, hnext]
      refine (htake _ _ _ hitem).bind fun a _ => ?_
      exact (ih (by rw [List.length_cons]; omega)).bind fun values _ => .ok (a :: values)

/-- Fields are read one by one, if each of them takes the state on as a step does. -/
theorem agrees_readFields {field : String → σ → Reader σ} {step : σ → String × Json → Except ε σ}
    (hfield : ∀ key state t u value v, readColon t = .ok u → tree u = .ok (value, v) →
      Agrees v (step state (key, value)) (field key state t))
    {fields : List (String × Json)} (h : ReadsFields tree first s fields rest) (state : σ) {bound : Nat}
    (hbound : fields.length < bound) :
    Agrees rest (fields.foldlM step state) (readFields field bound first state s) := by
  induction h generalizing bound state with
  | nil hnext =>
      obtain ⟨bound, rfl⟩ := Nat.exists_eq_add_of_lt hbound
      rw [readFields, hnext]
      exact .ok state
  | cons hnext hcolon hvalue _ ih =>
      obtain ⟨bound, rfl⟩ := Nat.exists_eq_add_of_lt hbound
      rw [List.foldlM_cons, readFields, hnext]
      refine (hfield _ state _ _ _ _ hcolon hvalue).bind fun state _ => ?_
      exact ih state (by rw [List.length_cons]; omega)

end Containers

/-- Whether a reader of items gives what is taken from the first ones, and leaves the text of those that are
left over, or fails where nothing is taken. -/
inductive AgreesUpTo {α ε : Type} (tree : Reader Json) (rest : List Char) :
    Except ε (α × List Json) → Except Fault (α × List Char) → Prop
  | ok (a : α) {first : Bool} {s : List Char} {left : List Json}
      (hleft : ReadsItems tree first s left rest) : AgreesUpTo tree rest (.ok (a, left)) (.ok (a, s))
  | error (e : ε) (fault : Fault) : AgreesUpTo tree rest (.error e) (.error fault)

namespace AgreesUpTo

variable {α β ε : Type} {tree : Reader Json} {s t rest : List Char}

theorem map {known : Except ε (α × List Json)} {read : Except Fault (α × List Char)} (f : α → β)
    (h : AgreesUpTo tree rest known read) :
    AgreesUpTo tree rest (known.map fun r => (f r.1, r.2)) (read.map fun r => (f r.1, r.2)) := by
  cases h with
  | ok a hleft => exact .ok (f a) hleft
  | error e fault => exact .error e fault

/-- One item in front of others. -/
theorem cons {known : Except ε α} {read : Except Fault (α × List Char)}
    {knownMore : Except ε (β × List Json)} {readMore : Reader β} (h : Agrees t known read)
    (hmore : AgreesUpTo tree rest knownMore (readMore t)) :
    AgreesUpTo tree rest
      (known >>= fun a => knownMore >>= fun more => .ok ((a, more.1), more.2))
      (read >>= fun a => readMore a.2 >>= fun more => .ok ((a.1, more.1), more.2)) := by
  cases h with
  | error e fault => exact .error e fault
  | ok a =>
      have hpair := hmore.map fun b => (a, b)
      rwa [Except.map_eq_bind, Except.map_eq_bind] at hpair

/-- A list is closed only if none of its items is left over. -/
theorem enclosed {known : Except ε (α × List Json)} {inside : Reader α} {u : List Char}
    (h : AgreesUpTo tree u known (inside s)) (hclose : closeList u = .ok rest) (cause : ε) :
    Agrees rest (known >>= fun r => if r.2.isEmpty then .ok r.1 else .error cause)
      (Json.enclosed closeList afterListEnd inside s) := by
  rw [Json.enclosed]
  generalize inside s = result at h
  cases h with
  | error e fault => cases fault <;> exact .error e _
  | ok a hleft =>
      cases hleft with
      | nil =>
          simp only [hclose]
          exact .ok a
      | cons hnext =>
          obtain ⟨fault, hfault⟩ := closeList_of_nextItem? hnext
          simp only [hfault]
          exact .error cause fault

end AgreesUpTo

end SwaggerGen.Json
