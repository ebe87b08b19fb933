import SwaggerGen.Proofs.Format.Reading
import SwaggerGen.Proofs.Json.Text

/-!
# Reading what was written

The tree that a value is written as shows the value. Its text is read back as the value, wherever it
stands, if as many containers may be opened inside one another as the format has.
-/

namespace SwaggerGen

open Json

theorem valuesOf_eq_nil {key : String} {entries : List (String × Json)}
    (h : key ∉ entries.map Prod.fst) : valuesOf key entries = [] := by
  rw [valuesOf, List.filter_eq_nil_iff.mpr, List.map_nil]
  intro entry hentry
  have hne : entry.1 ≠ key := fun hkey => h (List.mem_map.mpr ⟨entry, hentry, hkey⟩)
  simpa using hne

theorem Fields.map_fst_toEntries : {α σ : Type} → (fields : Fields α σ) → (a : α) →
    (fields.toEntries a).map Prod.fst = fields.names
  | _, _, .nil, () => rfl
  | _, _, .cons _ _ _ more, (_, rest) => congrArg _ (more.map_fst_toEntries rest)

theorem SortedMap.textMapPresents (m : SortedMap String) :
    TextMapPresents m (Format.textMap.toJson m) := by
  refine ⟨m.toList, rfl, fun key => ?_⟩
  rw [← get?_ofList, ofList_toList]

theorem Format.toJson_ne_null {α : Type} {format : Format α} (h : ¬ format.isOptional) (a : α) :
    format.toJson a ≠ .null := by
  cases format with
  | optional value => exact absurd rfl h
  | _ => simp [Format.toJson]

theorem entriesBeside_eq_self {key : String} {entries : List (String × Json)}
    (h : key ∉ entries.map Prod.fst) : entriesBeside key entries = entries := by
  rw [entriesBeside, List.filter_eq_self]
  intro entry hentry
  have hne : entry.1 ≠ key := fun hkey => h (List.mem_map.mpr ⟨entry, hentry, hkey⟩)
  simpa using hne

theorem variantPresents_cons {tag name : String} {views : List FieldView}
    {fields : List (String × Json)} (htag : tag ∉ fields.map Prod.fst)
    (h : RecordPresents views (.object fields)) :
    VariantPresents tag name views (.object ((tag, .string name) :: fields)) := by
  have hbeside : entriesBeside tag ((tag, .string name) :: fields) = fields := by
    rw [entriesBeside, List.filter_cons_of_neg (by simp), ← entriesBeside, entriesBeside_eq_self htag]
  rw [VariantPresents, valuesOf_cons, if_pos rfl, valuesOf_eq_nil htag, hbeside]
  exact ⟨rfl, h⟩

mutual
/-- The tree of a value shows the value. -/
theorem Format.presents_toJson : {α : Type} → (format : Format α) → format.Lawful → ∀ a,
    format.Presents a (format.toJson a)
  | _, .text, _, _ => rfl
  | _, .textMap, _, m => m.textMapPresents
  | _, .list item, h, values => by
      refine ⟨values.map item.toJson, rfl, ?_⟩
      rw [List.forall₂_map_right_iff, List.forall₂_same]
      exact fun a _ => item.presents_toJson h a
  | _, .optional value, h, none => rfl
  | _, .optional value, h, some a => ⟨Format.toJson_ne_null h.2 a, value.presents_toJson h.1 a⟩
  | _, .record _ fields packing, h, a => fields.shownAmong_toEntries h.1 h.2 (packing.unpack a)
  | _, .choice _ tag variants packing, h, a => by
      obtain ⟨fields, heq, htag, hshown⟩ := variants.toEntries_eq_cons tag h.2 (packing.unpack a)
      rw [Format.Presents, Format.toJson, heq]
      exact variantPresents_cons htag hshown

/-- The entries of a record show its fields. -/
theorem Fields.shownAmong_toEntries : {α σ : Type} → (fields : Fields α σ) → fields.names.Nodup →
    fields.Lawful → ∀ a, ∀ view ∈ fields.views a,
    view.ShownAmong (valuesOf view.name (fields.toEntries a))
  | _, _, .nil, _, _, () => nofun
  | _, _, .cons name value default more, hnodup, h, (a, rest) => by
      obtain ⟨hname, hnodup⟩ := List.nodup_cons.mp hnodup
      rw [Fields.views, Fields.toEntries, List.forall_mem_cons]
      constructor
      · rw [valuesOf_cons, if_pos rfl, valuesOf_eq_nil]
        · exact value.presents_toJson h.1 a
        · rwa [more.map_fst_toEntries]
      · intro view hview
        have hne : name ≠ view.name := by
          rintro rfl
          exact hname (more.map_name_views rest ▸ List.mem_map_of_mem hview)
        rw [valuesOf_cons, if_neg hne]
        exact more.shownAmong_toEntries hnodup h.2 rest view hview

/-- A variant is written as its tag with its name, and behind it the entries of its fields. -/
theorem Variants.toEntries_eq_cons (tag : String) : {α : Type} → (variants : Variants α) →
    variants.Lawful tag → ∀ a, ∃ fields,
    variants.toEntries tag a = (tag, .string (variants.nameOf a)) :: fields ∧
      tag ∉ fields.map Prod.fst ∧ RecordPresents (variants.views a) (.object fields)
  | _, .cons _ _ fields _, h, .inl a =>
      ⟨_, rfl, (fields.map_fst_toEntries a).symm ▸ h.1, fields.shownAmong_toEntries h.2.1 h.2.2.1 a⟩
  | _, .cons _ _ _ more, h, .inr rest => more.toEntries_eq_cons tag h.2.2.2 rest
end

/-- A written tree is taken as the value it was written for. -/
theorem Format.ofJson_toJson {α : Type} (format : Format α) (h : format.Lawful) (a : α) :
    format.ofJson .given (format.toJson a) = .ok a :=
  (format.ofJson_eq_ok_iff .given h _ _).mpr (format.presents_toJson h a)

mutual
theorem Format.numberFree_toJson : {α : Type} → (format : Format α) → (a : α) →
    (format.toJson a).NumberFree
  | _, .text, _ => trivial
  | _, .textMap, _ => (fieldsNumberFree_iff _).mpr (List.forall_mem_map.mpr fun _ _ => trivial)
  | _, .list item, _ =>
      (itemsNumberFree_iff _).mpr (List.forall_mem_map.mpr fun a _ => item.numberFree_toJson a)
  | _, .optional _, none => trivial
  | _, .optional value, some a => value.numberFree_toJson a
  | _, .record _ fields packing, a => fields.numberFree_toEntries (packing.unpack a)
  | _, .choice _ tag variants packing, a => variants.numberFree_toEntries tag (packing.unpack a)

theorem Fields.numberFree_toEntries : {α σ : Type} → (fields : Fields α σ) → (a : α) →
    FieldsNumberFree (fields.toEntries a)
  | _, _, .nil, () => trivial
  | _, _, .cons _ value _ more, (a, rest) => ⟨value.numberFree_toJson a, more.numberFree_toEntries rest⟩

theorem Variants.numberFree_toEntries (tag : String) : {α : Type} → (variants : Variants α) →
    (a : α) → FieldsNumberFree (variants.toEntries tag a)
  | _, .cons _ _ fields _, .inl a => ⟨trivial, fields.numberFree_toEntries a⟩
  | _, .cons _ _ _ more, .inr rest => more.numberFree_toEntries tag rest
end

mutual
/-- How many containers stand inside one another in what a format writes. -/
def Format.depth : {α : Type} → Format α → Nat
  | _, .text => 0
  | _, .textMap => 1
  | _, .list item => item.depth + 1
  | _, .optional value => value.depth
  | _, .record _ fields _ => fields.depth + 1
  | _, .choice _ _ variants _ => variants.depth + 1

def Fields.depth : {α σ : Type} → Fields α σ → Nat
  | _, _, .nil => 0
  | _, _, .cons _ value _ more => max value.depth more.depth

def Variants.depth : {α : Type} → Variants α → Nat
  | _, .nil => 0
  | _, .cons _ _ fields more => max fields.depth more.depth
end

mutual
theorem Format.depth_toJson_le : {α : Type} → (format : Format α) → (a : α) →
    (format.toJson a).depth ≤ format.depth
  | _, .text, _ => Nat.zero_le _
  | _, .textMap, m => by
      refine Nat.succ_le_succ (fieldsDepth_le_iff.mpr ?_)
      exact List.forall_mem_map.mpr fun _ _ => Nat.zero_le _
  | _, .list item, values => by
      refine Nat.succ_le_succ (itemsDepth_le_iff.mpr ?_)
      exact List.forall_mem_map.mpr fun a _ => item.depth_toJson_le a
  | _, .optional _, none => Nat.zero_le _
  | _, .optional value, some a => value.depth_toJson_le a
  | _, .record _ fields packing, a => Nat.succ_le_succ (fields.depth_toEntries_le (packing.unpack a))
  | _, .choice _ tag variants packing, a =>
      Nat.succ_le_succ (variants.depth_toEntries_le tag (packing.unpack a))

theorem Fields.depth_toEntries_le : {α σ : Type} → (fields : Fields α σ) → (a : α) →
    fieldsDepth (fields.toEntries a) ≤ fields.depth
  | _, _, .nil, () => Nat.zero_le _
  | _, _, .cons _ value _ more, (a, rest) => by
      have hvalue := value.depth_toJson_le a
      have hmore := more.depth_toEntries_le rest
      simp only [Fields.toEntries, fieldsDepth, Fields.depth]
      omega

theorem Variants.depth_toEntries_le (tag : String) : {α : Type} → (variants : Variants α) → (a : α) →
    fieldsDepth (variants.toEntries tag a) ≤ variants.depth
  | _, .cons _ _ fields more, .inl a => by
      have hfields := fields.depth_toEntries_le a
      simp only [Variants.toEntries, fieldsDepth, depth, Variants.depth]
      omega
  | _, .cons _ _ fields more, .inr rest => by
      have hmore := more.depth_toEntries_le tag rest
      simp only [Variants.toEntries, Variants.depth]
      omega
end

/-- A value is read back from its text, whatever follows it. -/
theorem Format.read_write {style : Style} (hstyle : style.Spaced) {α : Type} (format : Format α)
    (h : format.Lawful) (a : α) {limit : Nat} (hdepth : format.depth ≤ limit) (level : Nat)
    {blank : List Char} (hblank : IsBlank blank) (rest : List Char) :
    format.read limit (blank ++ write style level (format.toJson a) ++ rest) = .ok (a, rest) := by
  have hbelow := Nat.le_trans (format.depth_toJson_le a) hdepth
  have hread := readTree_write hstyle _ (format.numberFree_toJson a) limit level hblank rest hbelow
  exact (format.agrees_read hread).eq_ok (format.ofJson_toJson h a)

end SwaggerGen
