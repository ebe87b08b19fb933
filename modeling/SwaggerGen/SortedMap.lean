/-!
# Maps with sorted keys

A map from strings whose entries stand in strictly increasing order of their keys, by code point. Each
map has one list of entries, so maps with the same entries are equal.
-/

namespace SwaggerGen

/-- Entries with strictly increasing keys. -/
structure SortedMap (α : Type) where
  toList : List (String × α)
  sorted : toList.Pairwise fun a b => a.1 < b.1
  deriving Repr

namespace SortedMap

variable {α : Type}

@[ext] theorem ext {m n : SortedMap α} (h : m.toList = n.toList) : m = n := by
  cases m; cases n; cases h; rfl

instance [DecidableEq α] : DecidableEq (SortedMap α) := fun m n =>
  decidable_of_iff (m.toList = n.toList) ⟨ext, fun h => h ▸ rfl⟩

def empty : SortedMap α := ⟨[], .nil⟩

instance : Inhabited (SortedMap α) := ⟨empty⟩

@[simp] theorem toList_empty : (empty : SortedMap α).toList = [] := rfl

/-- Puts an entry in its place among sorted entries; an entry with the same key goes. -/
def insertEntry (key : String) (value : α) : List (String × α) → List (String × α)
  | [] => [(key, value)]
  | (k, v) :: rest =>
      if key < k then (key, value) :: (k, v) :: rest
      else if key = k then (key, value) :: rest
      else (k, v) :: insertEntry key value rest

theorem mem_insertEntry {key : String} {value : α} {entries : List (String × α)}
    {entry : String × α} (h : entry ∈ insertEntry key value entries) :
    entry = (key, value) ∨ entry ∈ entries := by
  induction entries with
  | nil => simpa [insertEntry] using h
  | cons head rest ih =>
      obtain ⟨k, v⟩ := head
      rw [insertEntry] at h
      split at h
      · simpa using h
      · split at h
        · rcases List.mem_cons.mp h with h | h
          · exact .inl h
          · exact .inr (List.mem_cons_of_mem _ h)
        · rcases List.mem_cons.mp h with h | h
          · exact .inr (h ▸ List.mem_cons_self)
          · rcases ih h with h | h
            · exact .inl h
            · exact .inr (List.mem_cons_of_mem _ h)

theorem lt_of_not_lt_of_ne {a b : String} (h : ¬ a < b) (hne : a ≠ b) : b < a := by
  rcases String.le_total a b with hle | hle
  · exact absurd (String.le_antisymm hle (String.not_lt.mp h)) hne
  · exact String.not_le.mp fun hba => hne (String.le_antisymm hba hle)

theorem pairwise_insertEntry (key : String) (value : α) {entries : List (String × α)}
    (h : entries.Pairwise fun a b => a.1 < b.1) :
    (insertEntry key value entries).Pairwise fun a b => a.1 < b.1 := by
  induction entries with
  | nil => simp [insertEntry]
  | cons head rest ih =>
      obtain ⟨k, v⟩ := head
      obtain ⟨hk, hrest⟩ := List.pairwise_cons.mp h
      rw [insertEntry]
      split
      · next hlt =>
          refine List.pairwise_cons.mpr ⟨fun entry hmem => ?_, h⟩
          rcases List.mem_cons.mp hmem with rfl | hmem
          · exact hlt
          · exact String.lt_trans hlt (hk entry hmem)
      · next hnlt =>
          split
          · next heq =>
              subst heq
              exact List.pairwise_cons.mpr ⟨hk, hrest⟩
          · next hne =>
              refine List.pairwise_cons.mpr ⟨fun entry hmem => ?_, ih hrest⟩
              rcases mem_insertEntry hmem with rfl | hmem
              · exact lt_of_not_lt_of_ne hnlt hne
              · exact hk entry hmem

/-- The map in which a key has a given value and every other key the value it had. -/
def insert (m : SortedMap α) (key : String) (value : α) : SortedMap α :=
  ⟨insertEntry key value m.toList, pairwise_insertEntry key value m.sorted⟩

@[simp] theorem toList_insert (m : SortedMap α) (key : String) (value : α) :
    (m.insert key value).toList = insertEntry key value m.toList := rfl

def get? (m : SortedMap α) (key : String) : Option α := m.toList.lookup key

@[simp] theorem get?_empty (key : String) : (empty : SortedMap α).get? key = none := rfl

theorem lookup_cons_eq_ite (other k : String) (v : α) (rest : List (String × α)) :
    ((k, v) :: rest).lookup other = if other = k then some v else rest.lookup other := by
  by_cases h : other = k
  · simp [h]
  · have hk : (other == k) = false := by simpa using h
    simp [List.lookup_cons, h, hk]

theorem lookup_insertEntry (key other : String) (value : α) (entries : List (String × α)) :
    (insertEntry key value entries).lookup other =
      if other = key then some value else entries.lookup other := by
  induction entries with
  | nil => simp [insertEntry, lookup_cons_eq_ite]
  | cons head rest ih =>
      obtain ⟨k, v⟩ := head
      rw [insertEntry]
      split
      · simp only [lookup_cons_eq_ite]
      · split
        · next heq =>
            subst heq
            by_cases h : other = key <;> simp [lookup_cons_eq_ite, h]
        · next hne =>
            by_cases h : other = k
            · have hk : k ≠ key := fun hk => hne hk.symm
              simp [h, hk]
            · simp [lookup_cons_eq_ite, h, ih]

theorem get?_insert (m : SortedMap α) (key other : String) (value : α) :
    (m.insert key value).get? other = if other = key then some value else m.get? other :=
  lookup_insertEntry key other value m.toList

def keys (m : SortedMap α) : List String := m.toList.map Prod.fst

def size (m : SortedMap α) : Nat := m.toList.length

def single (key : String) (value : α) : SortedMap α := empty.insert key value

/-- The entries put in one after another, so that the last entry of a key counts. -/
def ofList (entries : List (String × α)) : SortedMap α :=
  entries.foldl (fun m entry => m.insert entry.1 entry.2) empty

end SortedMap

end SwaggerGen
