import SwaggerGen.Json.TreeReader
import SwaggerGen.Proofs.Except

/-!
# What a tree is read from

When a text is read as a tree: the parts of the text that its items, its fields and the tree itself are
read from, each with the text that is left behind it.
-/

namespace SwaggerGen.Json

/-- Whether items are read from a text up to the closing bracket of their list, each by a reader of trees. -/
inductive ReadsItems (tree : Reader Json) : Bool → List Char → List Json → List Char → Prop
  | nil {first : Bool} {s : List Char} (hnext : nextItem? first s = .ok none) :
      ReadsItems tree first s [] s
  | cons {first : Bool} {s t u rest : List Char} {item : Json} {items : List Json}
      (hnext : nextItem? first s = .ok (some t)) (hitem : tree t = .ok (item, u))
      (hmore : ReadsItems tree false u items rest) : ReadsItems tree first s (item :: items) rest

/-- Whether fields are read from a text up to the closing brace of their object. -/
inductive ReadsFields (tree : Reader Json) :
    Bool → List Char → List (String × Json) → List Char → Prop
  | nil {first : Bool} {s : List Char} (hnext : nextKey? first s = .ok none) :
      ReadsFields tree first s [] s
  | cons {first : Bool} {s t u v rest : List Char} {key : String} {value : Json}
      {fields : List (String × Json)} (hnext : nextKey? first s = .ok (some (key, t)))
      (hcolon : readColon t = .ok u) (hvalue : tree u = .ok (value, v))
      (hmore : ReadsFields tree false v fields rest) :
      ReadsFields tree first s ((key, value) :: fields) rest

/-- Whether a tree is read from the front of a text that may open so many containers inside one another. -/
inductive Reads (s : List Char) : Nat → Json → List Char → Prop
  | null {limit : Nat} {t rest : List Char} (hs : skipSpace s = 'n' :: t)
      (hword : readWord "ull".toList t = .ok ((), rest)) : Reads s limit .null rest
  | truth {limit : Nat} {t rest : List Char} (hs : skipSpace s = 't' :: t)
      (hword : readWord "rue".toList t = .ok ((), rest)) : Reads s limit (.boolean true) rest
  | falsity {limit : Nat} {t rest : List Char} (hs : skipSpace s = 'f' :: t)
      (hword : readWord "alse".toList t = .ok ((), rest)) : Reads s limit (.boolean false) rest
  | number {limit : Nat} {c : Char} {t rest : List Char} {n : Number} (hs : skipSpace s = c :: t)
      (hc : c = '-' ∨ c.isDigit) (hnumber : readNumber (c :: t) = .ok (n, rest)) :
      Reads s limit (.number n) rest
  | string {limit : Nat} {t rest : List Char} {x : String} (hs : skipSpace s = '"' :: t)
      (hstring : readString t = .ok (x, rest)) : Reads s limit (.string x) rest
  | array {limit : Nat} {t u rest : List Char} {items : List Json} (hs : skipSpace s = '[' :: t)
      (hitems : ReadsItems (readTree limit) true t items u) (hclose : closeList u = .ok rest) :
      Reads s (limit + 1) (.array items) rest
  | object {limit : Nat} {t u rest : List Char} {fields : List (String × Json)}
      (hs : skipSpace s = '{' :: t) (hfields : ReadsFields (readTree limit) true t fields u)
      (hclose : closeObject u = .ok rest) : Reads s (limit + 1) (.object fields) rest

/-- Whether the text of a tree may begin with a character. -/
def BeginsWith (c : Char) : Json → Prop
  | .null => c = 'n'
  | .boolean b => c = if b then 't' else 'f'
  | .number _ => c = '-' ∨ c.isDigit
  | .string _ => c = '"'
  | .array _ => c = '['
  | .object _ => c = '{'

theorem Reads.beginsWith {s t rest : List Char} {limit : Nat} {json : Json} {c : Char}
    (h : Reads s limit json rest) (hs : skipSpace s = c :: t) : BeginsWith c json := by
  cases h with
  | number hs' hc =>
      obtain ⟨rfl, -⟩ := List.cons.inj (hs.symm.trans hs')
      exact hc
  | null hs' | truth hs' | falsity hs' | string hs' | array hs' | object hs' =>
      exact (List.cons.inj (hs.symm.trans hs')).1

section Readers

variable {tree : Reader Json} {s rest : List Char}

theorem readsItems_of_readItems {bound : Nat} {first : Bool} {items : List Json}
    (h : readItems tree bound first s = .ok (items, rest)) : ReadsItems tree first s items rest := by
  induction bound generalizing first s items with
  | zero => cases h
  | succ bound ih =>
      rw [readItems] at h
      obtain ⟨next, hnext, h⟩ := Except.bind_eq_ok_iff.mp h
      cases next with
      | none =>
          cases h
          exact .nil hnext
      | some t =>
          obtain ⟨⟨item, u⟩, hitem, h⟩ := Except.bind_eq_ok_iff.mp h
          obtain ⟨⟨more, v⟩, hmore, h⟩ := Except.bind_eq_ok_iff.mp h
          cases h
          exact .cons hnext hitem (ih hmore)

theorem readsFields_of_readFields {bound : Nat} {first : Bool} {before after : List (String × Json)}
    (h : readFields (readTreeField tree) bound first before s = .ok (after, rest)) :
    ∃ fields, after = fields.reverse ++ before ∧ ReadsFields tree first s fields rest := by
  induction bound generalizing first s before with
  | zero => cases h
  | succ bound ih =>
      rw [readFields] at h
      obtain ⟨next, hnext, h⟩ := Except.bind_eq_ok_iff.mp h
      cases next with
      | none =>
          cases h
          exact ⟨[], rfl, .nil hnext⟩
      | some entry =>
          obtain ⟨⟨state, u⟩, hfield, h⟩ := Except.bind_eq_ok_iff.mp h
          obtain ⟨t, hcolon, hfield⟩ := Except.bind_eq_ok_iff.mp hfield
          obtain ⟨⟨value, v⟩, hvalue, hfield⟩ := Except.bind_eq_ok_iff.mp hfield
          cases hfield
          obtain ⟨fields, rfl, hmore⟩ := ih h
          exact ⟨(entry.1, value) :: fields, by simp, .cons hnext hcolon hvalue hmore⟩

theorem enclosed_eq_ok {α : Type} {close : List Char → Except Fault (List Char)}
    {afterEnd : List Char → List Char} {inside : Reader α} {a : α}
    (h : enclosed close afterEnd inside s = .ok (a, rest)) :
    ∃ u, inside s = .ok (a, u) ∧ close u = .ok rest := by
  rw [enclosed] at h
  split at h
  · next value u hinside =>
      obtain ⟨rest', hclose, heq⟩ := Except.map_eq_ok_iff.mp h
      cases heq
      exact ⟨u, hinside, hclose⟩
  · cases h
  · cases h

theorem readsItems_of_readArray {json : Json} (h : readArray tree s = .ok (json, rest)) :
    ∃ items u, json = .array items ∧ ReadsItems tree true s items u ∧ closeList u = .ok rest := by
  obtain ⟨⟨items, _⟩, henclosed, heq⟩ := Except.bind_eq_ok_iff.mp h
  cases heq
  obtain ⟨u, hitems, hclose⟩ := enclosed_eq_ok henclosed
  exact ⟨items, u, rfl, readsItems_of_readItems hitems, hclose⟩

theorem readsFields_of_readObjectTree {json : Json} (h : readObjectTree tree s = .ok (json, rest)) :
    ∃ fields u, json = .object fields ∧ ReadsFields tree true s fields u ∧
      closeObject u = .ok rest := by
  obtain ⟨⟨before, _⟩, henclosed, heq⟩ := Except.bind_eq_ok_iff.mp h
  cases heq
  obtain ⟨u, hinside, hclose⟩ := enclosed_eq_ok henclosed
  obtain ⟨fields, rfl, hfields⟩ := readsFields_of_readFields hinside
  exact ⟨fields, u, by simp, hfields, hclose⟩

end Readers

theorem readWord_of_map {letters s rest : List Char} {word json : Json}
    (h : (readWord letters s).map (fun r => (word, r.2)) = .ok (json, rest)) :
    word = json ∧ readWord letters s = .ok ((), rest) := by
  obtain ⟨⟨_, _⟩, hword, heq⟩ := Except.map_eq_ok_iff.mp h
  cases heq
  exact ⟨rfl, hword⟩

theorem reads_of_readValue {limit : Nat} {list object : Reader Json} {s rest : List Char} {json : Json}
    (hlist : ∀ t, skipSpace s = '[' :: t → list t = .ok (json, rest) → Reads s limit json rest)
    (hobject : ∀ t, skipSpace s = '{' :: t → object t = .ok (json, rest) → Reads s limit json rest)
    (h : readValue list object s = .ok (json, rest)) : Reads s limit json rest := by
  rw [readValue] at h
  split at h
  · cases h
  · next t hs =>
      obtain ⟨rfl, hword⟩ := readWord_of_map h
      exact .null hs hword
  · next t hs =>
      obtain ⟨rfl, hword⟩ := readWord_of_map h
      exact .truth hs hword
  · next t hs =>
      obtain ⟨rfl, hword⟩ := readWord_of_map h
      exact .falsity hs hword
  · next t hs =>
      obtain ⟨⟨x, _⟩, hstring, heq⟩ := Except.map_eq_ok_iff.mp h
      cases heq
      exact .string hs hstring
  · next t hs => exact hlist t hs h
  · next t hs => exact hobject t hs h
  · next c t _ _ _ _ _ _ hs =>
      split at h
      · next hc =>
          obtain ⟨⟨n, _⟩, hnumber, heq⟩ := Except.map_eq_ok_iff.mp h
          cases heq
          exact .number hs hc hnumber
      · cases h

theorem reads_of_readTree {limit : Nat} {s rest : List Char} {json : Json}
    (h : readTree limit s = .ok (json, rest)) : Reads s limit json rest := by
  cases limit with
  | zero =>
      rw [readTree] at h
      refine reads_of_readValue (fun _ _ h => ?_) (fun _ _ h => ?_) h <;> cases h
  | succ limit =>
      refine reads_of_readValue (fun t hs hlist => ?_) (fun t hs hobject => ?_) h
      · obtain ⟨items, u, rfl, hitems, hclose⟩ := readsItems_of_readArray hlist
        exact .array hs hitems hclose
      · obtain ⟨fields, u, rfl, hfields, hclose⟩ := readsFields_of_readObjectTree hobject
        exact .object hs hfields hclose

theorem readText_eq_ok_iff {α : Type} {read : Reader α} {text : String} {a : α} :
    readText read text = .ok a ↔
      ∃ rest, read text.toList = .ok (a, rest) ∧ readEnd rest = .ok () := by
  rw [readText]
  cases read text.toList with
  | error fault => simp
  | ok r =>
      obtain ⟨value, rest⟩ := r
      cases hend : readEnd rest <;> simp [hend]

end SwaggerGen.Json
