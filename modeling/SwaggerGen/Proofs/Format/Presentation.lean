import SwaggerGen.Format.Tree
import SwaggerGen.Proofs.Entries
import SwaggerGen.Proofs.Except

/-!
# Presentations

A presentation of a value is a tree that shows it: an object with its fields in any order among unknown
ones, or a list of them in declaration order. Taking a tree as a value of a format succeeds exactly when
the tree presents the value, wherever the tree comes from.
-/

namespace SwaggerGen

def valuesOf (key : String) (entries : List (String × Json)) : List Json :=
  (entries.filter (·.1 = key)).map Prod.snd

/-- The entries under other keys. -/
def entriesBeside (key : String) (entries : List (String × Json)) : List (String × Json) :=
  entries.filter (·.1 ≠ key)

/-- One field of a record with a value: whether it may be left out, and the trees that show it. -/
structure FieldView where
  name : String
  omissible : Prop
  shownBy : Json → Prop

def FieldView.required (name : String) (shownBy : Json → Prop) : FieldView := ⟨name, False, shownBy⟩

/-- A field with a default, which may be left out when that is its value. -/
def FieldView.defaulted (name : String) (isDefault : Prop) (shownBy : Json → Prop) : FieldView :=
  ⟨name, isDefault, shownBy⟩

/-- Whether the trees that stand for a field show it: one tree does, or none stands for its default. -/
def FieldView.ShownAmong (view : FieldView) : List Json → Prop
  | [] => view.omissible
  | [json] => view.shownBy json
  | _ => False

/-- Whether the items of a list show fields in their order. Those at the end may be left out. -/
def ItemsPresent : List FieldView → List Json → Prop
  | [], items => items = []
  | view :: views, [] => view.omissible ∧ ItemsPresent views []
  | view :: views, item :: items => view.shownBy item ∧ ItemsPresent views items

/-- Whether a tree shows the fields of a record: as an object each of them once under its name, with
unknown entries anywhere, or as a list. -/
def RecordPresents (views : List FieldView) : Json → Prop
  | .object entries => ∀ view ∈ views, view.ShownAmong (valuesOf view.name entries)
  | .array items => ItemsPresent views items
  | _ => False

/-- Whether a tree shows a map: it is an object of strings, and the last string of a key counts. -/
def TextMapPresents (m : SortedMap String) (json : Json) : Prop :=
  ∃ pairs : List (String × String), json = .object (pairs.map fun pair => (pair.1, .string pair.2)) ∧
    ∀ key, m.get? key = ((pairs.filter (·.1 = key)).map Prod.snd).getLast?

def ListPresents {α : Type} (item : α → Json → Prop) (values : List α) (json : Json) : Prop :=
  ∃ items, json = .array items ∧ List.Forall₂ item values items

/-- Whether a tree shows a value that may be absent, which `null` stands for. -/
def OptionalPresents {α : Type} (value : α → Json → Prop) : Option α → Json → Prop
  | none, json => json = .null
  | some a, json => json ≠ .null ∧ value a json

/-- Whether a tree shows the variant with a name: its record with the tag as one more entry, or with the
tag as the first item. -/
def VariantPresents (tag name : String) (views : List FieldView) : Json → Prop
  | .object entries =>
      valuesOf tag entries = [.string name] ∧ RecordPresents views (.object (entriesBeside tag entries))
  | .array (first :: items) => first = .string name ∧ RecordPresents views (.array items)
  | _ => False

def Variants.nameOf : {α : Type} → Variants α → α → String
  | _, .cons name _ _ _, .inl _ => name
  | _, .cons _ _ _ more, .inr rest => more.nameOf rest

mutual
def Format.Presents : {α : Type} → Format α → α → Json → Prop
  | _, .text, s, json => json = .string s
  | _, .textMap, m, json => TextMapPresents m json
  | _, .list item, values, json => ListPresents item.Presents values json
  | _, .optional value, a, json => OptionalPresents value.Presents a json
  | _, .record _ fields packing, a, json => RecordPresents (fields.views (packing.unpack a)) json
  | _, .choice _ tag variants packing, a, json =>
      VariantPresents tag (variants.nameOf (packing.unpack a)) (variants.views (packing.unpack a)) json

def Fields.views : {α σ : Type} → Fields α σ → α → List FieldView
  | _, _, .nil, () => []
  | _, _, .cons name value default more, (a, rest) =>
      ⟨name, default = some a, value.Presents a⟩ :: more.views rest

def Variants.views : {α : Type} → Variants α → α → List FieldView
  | _, .cons _ _ fields _, .inl a => fields.views a
  | _, .cons _ _ _ more, .inr rest => more.views rest
end

def Format.isOptional : {α : Type} → Format α → Bool
  | _, .optional _ => true
  | _, _ => false

mutual
/-- Whether the names of fields are distinct in each record and differ from the tag of a choice, the
names of variants are distinct, and no value that may be absent is of such a kind itself. -/
def Format.Lawful : {α : Type} → Format α → Prop
  | _, .text => True
  | _, .textMap => True
  | _, .list item => item.Lawful
  | _, .optional value => value.Lawful ∧ ¬ value.isOptional
  | _, .record _ fields _ => fields.names.Nodup ∧ fields.Lawful
  | _, .choice _ tag variants _ => variants.names.Nodup ∧ variants.Lawful tag

/-- Whether this holds of the formats of fields. -/
def Fields.Lawful : {α σ : Type} → Fields α σ → Prop
  | _, _, .nil => True
  | _, _, .cons _ value _ more => value.Lawful ∧ more.Lawful

/-- Whether this holds of the fields of variants. -/
def Variants.Lawful (tag : String) : {α : Type} → Variants α → Prop
  | _, .nil => True
  | _, .cons _ _ fields more =>
      tag ∉ fields.names ∧ fields.names.Nodup ∧ fields.Lawful ∧ more.Lawful tag
end

section Entries

variable (key : String) (entries : List (String × Json))

theorem valuesOf_cons (entry : String × Json) :
    valuesOf key (entry :: entries) =
      if entry.1 = key then entry.2 :: valuesOf key entries else valuesOf key entries := by
  by_cases h : entry.1 = key <;> simp [valuesOf, h]

theorem valuesOf_entriesBeside {other : String} (h : key ≠ other) :
    valuesOf key (entriesBeside other entries) = valuesOf key entries := by
  rw [valuesOf, entriesBeside, List.filter_filter, valuesOf]
  congr 1
  refine List.filter_congr fun entry _ => ?_
  by_cases hkey : entry.1 = key <;> simp [hkey, h]

end Entries

theorem textOf_eq_ok_iff (wanted : Json.Wanted) (json : Json) (s : String) :
    textOf wanted json = .ok s ↔ json = .string s := by
  cases json <;> simp [textOf]

theorem mapM_textOf_eq_ok_iff (entries : List (String × Json)) (pairs : List (String × String)) :
    (entries.mapM fun field => (textOf .string field.2).map (field.1, ·)) = .ok pairs ↔
      entries = pairs.map fun pair => (pair.1, .string pair.2) := by
  rw [Except.mapM_eq_ok_iff, eq_comm (a := entries), ← List.forall₂_eq_eq_eq,
    List.forall₂_map_left_iff]
  have hstep (pair : String × String) (entry : String × Json) :
      (textOf .string entry.2).map (entry.1, ·) = .ok pair ↔
        (pair.1, Json.string pair.2) = entry := by
    rw [Except.map_eq_ok_iff]
    simp only [textOf_eq_ok_iff]
    constructor
    · rintro ⟨s, hs, rfl⟩
      rw [← hs]
    · rintro rfl
      exact ⟨pair.2, rfl, rfl⟩
  simp only [hstep]

/-- Taking a tree as a map of strings succeeds exactly when it shows the map. -/
theorem textMapOf_eq_ok_iff (json : Json) (m : SortedMap String) :
    textMapOf json = .ok m ↔ TextMapPresents m json := by
  cases json with
  | object entries =>
      rw [textMapOf, Except.bind_eq_ok_iff]
      simp only [mapM_textOf_eq_ok_iff, Except.ok.injEq]
      constructor
      · rintro ⟨pairs, rfl, rfl⟩
        exact ⟨pairs, rfl, SortedMap.get?_ofList pairs⟩
      · rintro ⟨pairs, hjson, hget⟩
        refine ⟨pairs, Json.object.inj hjson, SortedMap.ext_get? fun key => ?_⟩
        rw [SortedMap.get?_ofList, hget]
  | _ => simp [textMapOf, TextMapPresents]

theorem takeTag_eq_ok_iff (tag : String) (found : Option Json) (others entries : List (String × Json))
    (name content : Json) :
    splitTag.takeTag tag found others entries = .ok (name, content) ↔
      found.toList ++ valuesOf tag entries = [name] ∧
        content = .object (others.reverse ++ entriesBeside tag entries) := by
  induction entries generalizing found others with
  | nil => cases found <;> simp [splitTag.takeTag, valuesOf, entriesBeside, eq_comm]
  | cons entry rest ih =>
      obtain ⟨key, value⟩ := entry
      rw [splitTag.takeTag, valuesOf_cons]
      by_cases hkey : key = tag
      · cases found <;> simp [hkey, ih, entriesBeside]
      · simp [hkey, ih, entriesBeside]

theorem splitTag_object_eq_ok_iff (label tag : String) (entries : List (String × Json))
    (name content : Json) :
    splitTag label tag (.object entries) = .ok (name, content) ↔
      valuesOf tag entries = [name] ∧ content = .object (entriesBeside tag entries) := by
  simp [splitTag, takeTag_eq_ok_iff]

theorem variantName_eq_ok_iff (known : List String) (json : Json) (name : String) :
    variantName known json = .ok name ↔ json = .string name ∧ name ∈ known := by
  simp only [variantName, Except.bind_eq_ok_iff, textOf_eq_ok_iff]
  constructor
  · rintro ⟨found, rfl, h⟩
    split at h
    · cases h
      exact ⟨rfl, ‹_›⟩
    · cases h
  · rintro ⟨rfl, hmem⟩
    exact ⟨name, rfl, if_pos hmem⟩

def fillSlot {α : Type} (name : String) (ofJson : Json → Except Json.Cause α) (slot : Option α)
    (entry : String × Json) : Except Json.Cause (Option α) :=
  if slot.isSome then .error (.repeatedField name) else (ofJson entry.2).map some

section Fill

variable {α β σ : Type} (origin : Origin) (name : String) (value : Format α) (default : Option α)
  (more : Fields β σ)

theorem fill_cons_of_eq {entry : String × Json} (h : entry.1 = name) (slot : Option α) (slots : σ) :
    (Fields.cons name value default more).fill origin entry (slot, slots) =
      (fillSlot name (value.ofJson origin) slot entry).map (·, slots) := by
  rw [Fields.fill, if_pos h, fillSlot]
  split
  · rfl
  · cases value.ofJson origin entry.2 <;> rfl

theorem fill_cons_of_ne {entry : String × Json} (h : entry.1 ≠ name) (slot : Option α) (slots : σ) :
    (Fields.cons name value default more).fill origin entry (slot, slots) =
      (more.fill origin entry slots).map (slot, ·) := by
  rw [Fields.fill, if_neg h]

theorem foldlM_fill_cons_eq_ok_iff (entries : List (String × Json)) (slot slot' : Option α)
    (slots slots' : σ) :
    entries.foldlM (fun slots entry => (Fields.cons name value default more).fill origin entry slots)
        (slot, slots) = .ok (slot', slots') ↔
      (entries.filter (·.1 = name)).foldlM (fillSlot name (value.ofJson origin)) slot = .ok slot' ∧
        (entriesBeside name entries).foldlM (fun slots entry => more.fill origin entry slots) slots =
          .ok slots' := by
  induction entries generalizing slot slots with
  | nil => simp [entriesBeside, pure, Except.pure]
  | cons entry rest ih =>
      rw [Except.foldlM_cons_eq_ok_iff]
      by_cases h : entry.1 = name
      · have hbeside : entriesBeside name (entry :: rest) = entriesBeside name rest :=
          List.filter_cons_of_neg (by simpa using h)
        rw [List.filter_cons_of_pos (by simpa using h), hbeside, Except.foldlM_cons_eq_ok_iff]
        simp only [fill_cons_of_eq origin name value default more h, Except.map_eq_ok_iff]
        constructor
        · rintro ⟨_, ⟨filled, hfilled, rfl⟩, hrest⟩
          obtain ⟨hslot, hslots⟩ := (ih filled slots).mp hrest
          exact ⟨⟨filled, hfilled, hslot⟩, hslots⟩
        · rintro ⟨⟨filled, hfilled, hslot⟩, hslots⟩
          exact ⟨_, ⟨filled, hfilled, rfl⟩, (ih filled slots).mpr ⟨hslot, hslots⟩⟩
      · have hbeside : entriesBeside name (entry :: rest) = entry :: entriesBeside name rest :=
          List.filter_cons_of_pos (by simpa using h)
        rw [List.filter_cons_of_neg (by simpa using h), hbeside, Except.foldlM_cons_eq_ok_iff]
        simp only [fill_cons_of_ne origin name value default more h, Except.map_eq_ok_iff]
        constructor
        · rintro ⟨_, ⟨filled, hfilled, rfl⟩, hrest⟩
          obtain ⟨hslot, hslots⟩ := (ih slot filled).mp hrest
          exact ⟨hslot, filled, hfilled, hslots⟩
        · rintro ⟨hslot, filled, hfilled, hslots⟩
          exact ⟨_, ⟨filled, hfilled, rfl⟩, (ih slot filled).mpr ⟨hslot, hslots⟩⟩

end Fill

/-- The slot of a field is filled in the end if a tree shows it, or takes a default, exactly when the
field is shown. -/
theorem foldlM_fillSlot_iff {α : Type} (name : String) (default : Option α)
    {ofJson : Json → Except Json.Cause α} {shownBy : α → Json → Prop}
    (hread : ∀ json a, ofJson json = .ok a ↔ shownBy a json) (entries : List (String × Json)) (a : α) :
    (∃ slot, entries.foldlM (fillSlot name ofJson) none = .ok slot ∧ (slot <|> default) = some a) ↔
      FieldView.ShownAmong ⟨name, default = some a, shownBy a⟩ (entries.map Prod.snd) := by
  match entries with
  | [] => simp [FieldView.ShownAmong, pure, Except.pure]
  | [entry] =>
      simp only [Except.foldlM_cons_eq_ok_iff, List.foldlM_nil, fillSlot]
      simp [FieldView.ShownAmong, pure, Except.pure, Except.map_eq_ok_iff, hread]
  | entry :: second :: rest =>
      simp only [Except.foldlM_cons_eq_ok_iff, fillSlot]
      simp [FieldView.ShownAmong, Except.map_eq_ok_iff]

theorem Fields.complete_cons_eq_ok_iff {α β σ : Type} (name : String) (value : Format α)
    (default : Option α) (more : Fields β σ) (slot : Option α) (slots : σ) (a : α) (rest : β) :
    (Fields.cons name value default more).complete (slot, slots) = .ok (a, rest) ↔
      (slot <|> default) = some a ∧ more.complete slots = .ok rest := by
  rw [Fields.complete]
  cases (slot <|> default) with
  | none => simp
  | some b =>
      simp only [Except.map_eq_ok_iff, Prod.mk.injEq, Option.some.injEq]
      constructor
      · rintro ⟨_, hrest, rfl, rfl⟩
        exact ⟨rfl, hrest⟩
      · rintro ⟨rfl, hrest⟩
        exact ⟨rest, hrest, rfl, rfl⟩

theorem Variants.nameOf_mem_names : {α : Type} → (variants : Variants α) → (a : α) →
    variants.nameOf a ∈ variants.names
  | _, .cons _ _ _ _, .inl _ => List.mem_cons_self
  | _, .cons _ _ _ more, .inr rest => List.mem_cons_of_mem _ (more.nameOf_mem_names rest)

theorem Fields.map_name_views : {α σ : Type} → (fields : Fields α σ) → (a : α) →
    (fields.views a).map FieldView.name = fields.names
  | _, _, .nil, () => rfl
  | _, _, .cons _ _ _ more, (_, rest) => congrArg _ (more.map_name_views rest)

/-- Taking a tree as a record succeeds exactly when the fields are shown, if entries and items do. -/
theorem takeRecord_eq_ok_iff {α σ : Type} {origin : Origin} {label : String} {fields : Fields α σ}
    {fill : String × Json → σ → Except Json.Cause σ}
    {ofItems : List Json → Except Json.Cause (α × List Json)} {views : List FieldView} {a : α}
    (hentries : ∀ entries, (∃ slots, entries.foldlM (fun slots entry => fill entry slots) fields.blank =
        .ok slots ∧ fields.complete slots = .ok a) ↔
      ∀ view ∈ views, view.ShownAmong (valuesOf view.name entries))
    (hitems : ∀ items, ofItems items = .ok (a, []) ↔ ItemsPresent views items) (json : Json) :
    takeRecord origin label fields fill ofItems json = .ok a ↔ RecordPresents views json := by
  cases json with
  | object entries =>
      rw [takeRecord, Except.bind_eq_ok_iff, RecordPresents, ← hentries]
      refine exists_congr fun slots => and_congr_right fun _ => ?_
      cases fields.complete slots <;> simp
  | array items =>
      rw [takeRecord, Except.bind_eq_ok_iff, RecordPresents, ← hitems]
      constructor
      · rintro ⟨⟨b, rest⟩, hread, hrest⟩
        cases rest with
        | nil =>
            cases hrest
            exact hread
        | cons item rest => cases hrest
      · intro hread
        exact ⟨(a, []), hread, rfl⟩
  | _ => simp [takeRecord, RecordPresents]

/-- A variant is taken by its name exactly when its content shows the fields of the variant. -/
theorem variant_eq_ok_iff {α β : Type} {variants : Variants α} (packing : Repacking α β)
    (hcontent : ∀ name content a, variants.ofContent name content = .ok a ↔
      name = variants.nameOf a ∧ RecordPresents (variants.views a) content) (name content : Json) (b : β) :
    (do
      let name ← variantName variants.names name
      (variants.ofContent name content).map packing.pack) = .ok b ↔
    name = .string (variants.nameOf (packing.unpack b)) ∧
      RecordPresents (variants.views (packing.unpack b)) content := by
  simp only [Except.bind_eq_ok_iff, variantName_eq_ok_iff, Except.map_eq_ok_iff, hcontent]
  constructor
  · rintro ⟨_, ⟨rfl, -⟩, a, ⟨rfl, hshown⟩, rfl⟩
    rw [packing.unpack_pack]
    exact ⟨rfl, hshown⟩
  · rintro ⟨rfl, hshown⟩
    exact ⟨_, ⟨rfl, variants.nameOf_mem_names _⟩, _, ⟨rfl, hshown⟩, packing.pack_unpack b⟩

/-- A tree is taken as a choice exactly when it shows one, if the contents of the variants are. -/
theorem Format.choice_ofJson_eq_ok_iff {α β : Type} (origin : Origin) (label tag : String)
    {variants : Variants α} (packing : Repacking α β)
    (hcontent : ∀ name content a, variants.ofContent name content = .ok a ↔
      name = variants.nameOf a ∧ RecordPresents (variants.views a) content) (json : Json) (b : β) :
    (Format.choice label tag variants packing).ofJson origin json = .ok b ↔
      (Format.choice label tag variants packing).Presents b json := by
  have hvariant := fun name content => variant_eq_ok_iff packing hcontent name content b
  rw [Format.ofJson, Except.bind_eq_ok_iff, Format.Presents]
  cases json with
  | object entries =>
      simp only [Prod.exists, splitTag_object_eq_ok_iff, hvariant, VariantPresents]
      constructor
      · rintro ⟨_, _, ⟨hname, rfl⟩, rfl, hshown⟩
        exact ⟨hname, hshown⟩
      · rintro ⟨hname, hshown⟩
        exact ⟨_, _, ⟨hname, rfl⟩, rfl, hshown⟩
  | array items =>
      cases items with
      | nil => simp [splitTag, VariantPresents]
      | cons first rest =>
          simp only [Prod.exists, splitTag, hvariant, VariantPresents, Except.ok.injEq, Prod.mk.injEq]
          constructor
          · rintro ⟨_, _, ⟨rfl, rfl⟩, hshown⟩
            exact hshown
          · intro hshown
            exact ⟨_, _, ⟨rfl, rfl⟩, hshown⟩
  | _ => simp [splitTag, VariantPresents]

mutual
/-- Taking a tree as a value succeeds exactly when it shows the value. -/
theorem Format.ofJson_eq_ok_iff (origin : Origin) : {α : Type} → (format : Format α) →
    format.Lawful → ∀ json a, format.ofJson origin json = .ok a ↔ format.Presents a json
  | _, .text, _, json, s => textOf_eq_ok_iff .string json s
  | _, .textMap, _, json, m => textMapOf_eq_ok_iff json m
  | _, .list item, h, json, values => by
      have ih := item.ofJson_eq_ok_iff origin h
      cases json with
      | array items =>
          rw [Format.ofJson, Except.mapM_eq_ok_iff]
          simp [Format.Presents, ListPresents, ih]
      | _ => simp [Format.ofJson, Format.Presents, ListPresents]
  | _, .optional value, h, json, a => by
      have ih := value.ofJson_eq_ok_iff origin h.1
      cases json with
      | null => cases a <;> simp [Format.ofJson, Format.Presents, OptionalPresents]
      | _ => cases a <;>
          simp [Format.ofJson, Format.Presents, OptionalPresents, Except.map_eq_ok_iff, ih]
  | _, .record label fields packing, h, json, a => by
      have hentries := fields.foldlM_fill_iff origin h.1 h.2
      have hitems := fields.ofItems_iff origin h.2
      rw [Format.ofJson, Except.map_eq_ok_iff, Format.Presents]
      constructor
      · rintro ⟨b, hb, rfl⟩
        rw [packing.unpack_pack]
        exact (takeRecord_eq_ok_iff (fun entries => hentries entries b)
          (fun items => hitems _ _ items b) json).mp hb
      · intro hshown
        refine ⟨packing.unpack a, ?_, packing.pack_unpack a⟩
        exact (takeRecord_eq_ok_iff (fun entries => hentries entries _)
          (fun items => hitems _ _ items _) json).mpr hshown
  | _, .choice label tag variants packing, h, json, a =>
      Format.choice_ofJson_eq_ok_iff origin label tag packing (variants.ofContent_iff tag h.1 h.2) json a

/-- An object fills the slots of a record, which is then complete, exactly when it shows the fields. -/
theorem Fields.foldlM_fill_iff (origin : Origin) : {α σ : Type} → (fields : Fields α σ) →
    fields.names.Nodup → fields.Lawful → ∀ (entries : List (String × Json)) (a : α),
    (∃ slots, entries.foldlM (fun slots entry => fields.fill origin entry slots) fields.blank =
        .ok slots ∧ fields.complete slots = .ok a) ↔
      ∀ view ∈ fields.views a, view.ShownAmong (valuesOf view.name entries)
  | _, _, .nil, _, _, entries, () => by
      have hfold : entries.foldlM (fun slots entry => Fields.nil.fill origin entry slots) () =
          (.ok () : Except Json.Cause Unit) := by
        induction entries with
        | nil => rfl
        | cons entry rest ih => exact ih
      simp [Fields.views, Fields.complete, Fields.blank, hfold]
  | _, _, .cons name value default more, hnodup, h, entries, (a, rest) => by
      -- The first slot is filled by the entries of its name, the other slots by the entries beside them.
      have hvalue := value.ofJson_eq_ok_iff origin h.1
      have hmore := more.foldlM_fill_iff origin (List.nodup_cons.mp hnodup).2 h.2
        (entriesBeside name entries) rest
      have hslot := foldlM_fillSlot_iff name default hvalue
        (entries.filter (·.1 = name)) a
      have hothers (view : FieldView) (hview : view ∈ more.views rest) :
          valuesOf view.name (entriesBeside name entries) = valuesOf view.name entries := by
        refine valuesOf_entriesBeside _ _ fun hname => (List.nodup_cons.mp hnodup).1 ?_
        rw [← more.map_name_views rest, ← hname]
        exact List.mem_map_of_mem hview
      have hmore' : (∀ view ∈ more.views rest, view.ShownAmong (valuesOf view.name entries)) ↔ _ :=
        (forall₂_congr fun view hview => by rw [hothers view hview]).trans hmore.symm
      rw [Fields.views, List.forall_mem_cons, valuesOf, ← hslot, hmore']
      constructor
      · rintro ⟨⟨slot, slots⟩, hfold, hdone⟩
        obtain ⟨hfill, hfold⟩ := (foldlM_fill_cons_eq_ok_iff ..).mp hfold
        obtain ⟨hvalue, hdone⟩ := (Fields.complete_cons_eq_ok_iff ..).mp hdone
        exact ⟨⟨slot, hfill, hvalue⟩, slots, hfold, hdone⟩
      · rintro ⟨⟨slot, hfill, hvalue⟩, slots, hfold, hdone⟩
        exact ⟨(slot, slots), (foldlM_fill_cons_eq_ok_iff ..).mpr ⟨hfill, hfold⟩,
          (Fields.complete_cons_eq_ok_iff ..).mpr ⟨hvalue, hdone⟩⟩

/-- The items of a list are taken as the fields, with none left over, exactly when they show them. -/
theorem Fields.ofItems_iff (origin : Origin) : {α σ : Type} → (fields : Fields α σ) →
    fields.Lawful → ∀ extent index (items : List Json) (a : α),
    fields.ofItems origin extent index items = .ok (a, []) ↔ ItemsPresent (fields.views a) items
  | _, _, .nil, _, _, _, items, a => by
      simp [Fields.ofItems, Fields.views, ItemsPresent]
  | _, _, .cons name value default more, h, extent, index, items, (a, rest) => by
      have hvalue := value.ofJson_eq_ok_iff origin h.1
      have hmore := more.ofItems_iff origin h.2 extent (index + 1)
      cases items with
      | nil =>
          rw [Fields.views, ItemsPresent, ← hmore]
          cases default with
          | none => simp [Fields.ofItems]
          | some b =>
              simp only [Fields.ofItems, Except.map_eq_ok_iff, Option.some.injEq, Prod.mk.injEq]
              constructor
              · rintro ⟨⟨others, left⟩, hread, ⟨rfl, rfl⟩, rfl⟩
                exact ⟨rfl, hread⟩
              · rintro ⟨rfl, hread⟩
                exact ⟨_, hread, ⟨rfl, rfl⟩, rfl⟩
      | cons item items =>
          rw [Fields.views, ItemsPresent, ← hmore]
          simp only [Fields.ofItems, Except.bind_eq_ok_iff, ← hvalue]
          constructor
          · rintro ⟨b, hb, ⟨others, left⟩, hread, hdone⟩
            cases hdone
            exact ⟨hb, hread⟩
          · rintro ⟨hb, hread⟩
            exact ⟨a, hb, _, hread, rfl⟩

/-- The content of a variant is taken exactly when it shows the fields of the variant. -/
theorem Variants.ofContent_iff (tag : String) : {α : Type} → (variants : Variants α) →
    variants.names.Nodup → variants.Lawful tag → ∀ name content (a : α),
    variants.ofContent name content = .ok a ↔
      name = variants.nameOf a ∧ RecordPresents (variants.views a) content
  | _, .nil, _, _, _, _, a => a.elim
  | _, .cons first label fields more, hnodup, h, name, content, a => by
      have hentries := fields.foldlM_fill_iff .setAside h.2.1 h.2.2.1
      have hitems := fields.ofItems_iff .setAside h.2.2.1
      have hmore := more.ofContent_iff tag (List.nodup_cons.mp hnodup).2 h.2.2.2
      have hfirst : first ∉ more.names := (List.nodup_cons.mp hnodup).1
      have hrecord (a) : takeRecord .setAside label fields (fields.fill .setAside)
          (fields.ofItems .setAside (.fields label fields.count) 0) content = .ok a ↔
            RecordPresents (fields.views a) content :=
        takeRecord_eq_ok_iff (fun entries => hentries entries a) (fun items => hitems _ _ items a)
          content
      rw [Variants.ofContent]
      by_cases hname : name = first
      · rw [if_pos hname, Except.map_eq_ok_iff]
        cases a with
        | inl a => simp [hname, hrecord, Variants.nameOf, Variants.views]
        | inr rest =>
            have hne : name ≠ more.nameOf rest := by
              rintro rfl
              exact hfirst (hname ▸ more.nameOf_mem_names rest)
            simp [Variants.nameOf, hne]
      · rw [if_neg hname, Except.map_eq_ok_iff]
        cases a with
        | inl a => simp [hname, Variants.nameOf]
        | inr rest => simp [hmore, Variants.nameOf, Variants.views]
end

end SwaggerGen
