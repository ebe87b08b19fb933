import SwaggerGen.Format.Text
import SwaggerGen.Proofs.Format.Presentation
import SwaggerGen.Proofs.Json.Agreement

/-!
# Reading a text and taking its tree

If a text is read as a tree, then reading the text straight as a value of a format gives the value that the
tree is taken as, or fails where the tree is refused.
-/

namespace SwaggerGen

open Json

section Parts

variable {limit : Nat} {s t u rest : List Char} {json : Json}

theorem agrees_wrongType {α ε : Type} (e : ε) (wanted : Wanted) (s : List Char) :
    Agrees rest (.error e : Except ε α) (wrongType wanted s) := by
  rw [wrongType]
  cases readFound s with
  | error fault => exact .error e fault
  | ok => exact .error e _

theorem agrees_readStringValue (wanted : Wanted) (h : readTree limit s = .ok (json, rest)) :
    Agrees rest (textOf wanted json) (readStringValue wanted s) := by
  rw [readStringValue]
  cases reads_of_readTree h with
  | string hs hstring =>
      rw [hs]
      simp only [hstring]
      exact .ok _
  | _ =>
      split
      · next hs => exact absurd ((reads_of_readTree h).beginsWith hs) (by simp [BeginsWith])
      · exact agrees_wrongType _ _ _

theorem agrees_readVariantName (known : List String) (h : readTree limit s = .ok (json, rest)) :
    Agrees rest (variantName known json) (readVariantName known s) := by
  rw [variantName, readVariantName]
  refine (agrees_readStringValue .variantName h).bind fun name _ => ?_
  dsimp only
  split
  · exact .ok name
  · exact .error _ _

def putText (m : SortedMap String) (entry : String × Json) : Except Cause (SortedMap String) :=
  (textOf .string entry.2).map (m.insert entry.1)

theorem foldlM_putText (entries : List (String × Json)) (m : SortedMap String) :
    entries.foldlM putText m =
      (entries.mapM fun field => (textOf .string field.2).map (field.1, ·)).map
        fun pairs => pairs.foldl (fun m pair => m.insert pair.1 pair.2) m := by
  induction entries generalizing m with
  | nil => rfl
  | cons entry rest ih =>
      rw [List.foldlM_cons, List.mapM_cons, putText]
      cases textOf .string entry.2 with
      | error => rfl
      | ok s =>
          rw [Except.ok_map, Except.ok_bind, ih, Except.ok_map, Except.ok_bind]
          cases rest.mapM fun field => (textOf .string field.2).map (field.1, ·) <;> rfl

theorem agrees_readTextEntry {key : String} (hcolon : readColon t = .ok u)
    (hvalue : readTree limit u = .ok (json, rest)) (m : SortedMap String) :
    Agrees rest (putText m (key, json)) (readTextEntry key m t) := by
  rw [readTextEntry, hcolon, Except.ok_bind, putText, Except.map_eq_bind]
  exact (agrees_readStringValue .string hvalue).bind fun s _ => .ok _

/-- Takes the tag of a choice, or an entry beside it. -/
def takeTagged (tag : String) (known : List String) (state : TagState) (entry : String × Json) :
    Except Cause TagState :=
  if entry.1 = tag then
    if state.1.isSome then .error (.repeatedField tag)
    else (variantName known entry.2).map fun name => (some name, state.2)
  else .ok (state.1, entry :: state.2)

/-- What is taken in the end: one tag with a known name, and the entries beside it, the last one first. -/
theorem foldlM_takeTagged_eq_ok_iff (tag : String) (known : List String) (state : TagState)
    (entries : List (String × Json)) (name : String) (others : List (String × Json)) :
    entries.foldlM (takeTagged tag known) state = .ok (some name, others) ↔
      (state.1 = some name ∧ valuesOf tag entries = [] ∨
        state.1 = none ∧ valuesOf tag entries = [.string name] ∧ name ∈ known) ∧
      others = (entriesBeside tag entries).reverse ++ state.2 := by
  induction entries generalizing state with
  | nil => simp [valuesOf, entriesBeside, pure, Except.pure, Prod.ext_iff, eq_comm]
  | cons entry rest ih =>
      obtain ⟨found, beside⟩ := state
      rw [Except.foldlM_cons_eq_ok_iff, takeTagged, valuesOf_cons]
      by_cases hkey : entry.1 = tag
      · have hbeside : entriesBeside tag (entry :: rest) = entriesBeside tag rest :=
          List.filter_cons_of_neg (by simpa using hkey)
        cases found with
        | some first => simp [hkey]
        | none =>
            simp only [hkey, if_true, Option.isSome_none, Bool.false_eq_true, if_false,
              Except.map_eq_ok_iff, variantName_eq_ok_iff, hbeside]
            constructor
            · rintro ⟨_, ⟨first, ⟨hfirst, hknown⟩, rfl⟩, hrest⟩
              obtain ⟨⟨hname, hnone⟩ | ⟨hname, -⟩, hothers⟩ := (ih _).mp hrest
              · cases hname
                exact ⟨.inr ⟨trivial, by rw [hfirst, hnone], hknown⟩, hothers⟩
              · cases hname
            · rintro ⟨⟨hname, -⟩ | ⟨-, hvalues, hknown⟩, hothers⟩
              · cases hname
              · obtain ⟨hfirst, hnone⟩ := List.cons.inj hvalues
                exact ⟨_, ⟨name, ⟨hfirst, hknown⟩, rfl⟩, (ih _).mpr ⟨.inl ⟨rfl, hnone⟩, hothers⟩⟩
      · have hbeside : entriesBeside tag (entry :: rest) = entry :: entriesBeside tag rest :=
          List.filter_cons_of_pos (by simpa using hkey)
        simp only [hkey, if_false, Except.ok.injEq, exists_eq_left', ih, hbeside, List.reverse_cons,
          List.append_assoc, List.singleton_append]

def taggedOf (label tag : String) (known : List String) (json : Json) :
    Except Cause (String × Json) := do
  let (name, content) ← splitTag label tag json
  let name ← variantName known name
  .ok (name, content)

theorem taggedOf_object_eq_ok_iff (label tag : String) (known : List String)
    (entries : List (String × Json)) (tagged : String × Json) :
    taggedOf label tag known (.object entries) = .ok tagged ↔
      valuesOf tag entries = [.string tagged.1] ∧ tagged.1 ∈ known ∧
        tagged.2 = .object (entriesBeside tag entries) := by
  obtain ⟨name, content⟩ := tagged
  simp only [taggedOf, Except.bind_eq_ok_iff, Prod.exists, splitTag_object_eq_ok_iff,
    variantName_eq_ok_iff, Except.ok.injEq, Prod.mk.injEq]
  constructor
  · rintro ⟨_, _, ⟨hvalues, rfl⟩, _, ⟨rfl, hknown⟩, rfl, rfl⟩
    exact ⟨hvalues, hknown, rfl⟩
  · rintro ⟨hvalues, hknown, rfl⟩
    exact ⟨_, _, ⟨hvalues, rfl⟩, _, ⟨rfl, hknown⟩, rfl, rfl⟩

theorem agrees_readTaggedEntry (tag : String) (known : List String) {key : String}
    (hcolon : readColon t = .ok u) (hvalue : readTree limit u = .ok (json, rest)) (state : TagState) :
    Agrees rest (takeTagged tag known state (key, json))
      (readTaggedEntry tag known limit key state t) := by
  rw [takeTagged, readTaggedEntry]
  split
  · split
    · exact .error _ _
    · rw [hcolon, Except.ok_bind, Except.map_eq_bind]
      exact (agrees_readVariantName known hvalue).bind fun name _ => .ok _
  · simp only [readTreeField, hcolon, Except.ok_bind, hvalue]
    exact .ok _

/-- The name of the variant and the tree of its fields, once all entries have been taken. -/
def finishTagged (tag : String) (state : TagState) : Except Cause (String × Json) :=
  match state.1 with
  | none => .error (.missingField tag)
  | some name => .ok (name, .object state.2.reverse)

theorem finishTagged_fold_eq_ok_iff (label tag : String) (known : List String)
    (entries : List (String × Json)) (tagged : String × Json) :
    entries.foldlM (takeTagged tag known) (none, []) >>= finishTagged tag = .ok tagged ↔
      taggedOf label tag known (.object entries) = .ok tagged := by
  rw [Except.bind_eq_ok_iff, taggedOf_object_eq_ok_iff]
  constructor
  · rintro ⟨⟨found, others⟩, hfold, hfinish⟩
    cases found with
    | none => cases hfinish
    | some name =>
        cases hfinish
        obtain ⟨⟨hname, -⟩ | ⟨-, hvalues, hknown⟩, rfl⟩ := (foldlM_takeTagged_eq_ok_iff ..).mp hfold
        · cases hname
        · exact ⟨hvalues, hknown, by simp⟩
  · obtain ⟨name, content⟩ := tagged
    rintro ⟨hvalues, hknown, rfl⟩
    refine ⟨(some name, (entriesBeside tag entries).reverse),
      (foldlM_takeTagged_eq_ok_iff ..).mpr ⟨.inr ⟨rfl, hvalues, hknown⟩, by simp⟩, ?_⟩
    simp only [finishTagged, List.reverse_reverse]

/-- The inside of an object is read as a tag and the entries beside it. -/
theorem agrees_readTaggedFields (label tag : String) (known : List String)
    {entries : List (String × Json)} (h : ReadsFields (readTree limit) true s entries rest) :
    Agrees rest (taggedOf label tag known (.object entries)) (readTaggedFields tag known limit s) := by
  have hread := agrees_readFields
    (fun key state t u value v hcolon hvalue =>
      agrees_readTaggedEntry tag known hcolon hvalue state) h (none, [])
    (Nat.lt_succ_of_le h.length_le)
  refine Agrees.congr ?_ (finishTagged_fold_eq_ok_iff label tag known entries)
  refine hread.bind fun state _ => ?_
  obtain ⟨found, others⟩ := state
  cases found with
  | none => exact .error _ _
  | some name => exact .ok _

/-- The inside of a list is read as a tag and the items behind it. -/
theorem agrees_readTaggedItems (label tag : String) (known : List String) {items : List Json}
    (h : ReadsItems (readTree limit) true s items rest) :
    Agrees rest (taggedOf label tag known (.array items)) (readTaggedItems tag known limit s) := by
  rw [readTaggedItems]
  cases h with
  | nil hnext =>
      rw [hnext]
      exact .error _ _
  | @cons _ _ _ u _ name items hnext hname hmore =>
      have hitem (t : List Char) (item : Json) (v : List Char)
          (h : readTree limit t = .ok (item, v)) :
          Agrees v (.ok item : Except Cause Json) (readTree limit t) := by
        rw [h]
        exact .ok item
      have hitems := agrees_readItems hitem hmore (Nat.lt_succ_of_le hmore.length_le)
      rw [Except.mapM_ok] at hitems
      rw [hnext]
      refine (agrees_readVariantName known hname).bind fun name _ => ?_
      exact hitems.map fun items => (name, Json.array items)

/-- Reads the entry of a field from the colon on, unless its slot is filled. -/
def readSlot {α σ : Type} (fields : Fields α σ) (read : String → σ → Reader σ) (key : String)
    (slots : σ) : Reader σ := fun s =>
  if fields.isFilled key slots then .error (.loose (.repeatedField key) s)
  else do
    let s ← readColon s
    read key slots s

theorem Fields.fill_of_isFilled : {α σ : Type} → (fields : Fields α σ) → ∀ entry slots,
    fields.isFilled entry.1 slots = true → ∃ cause, fields.fill .given entry slots = .error cause
  | _, _, .nil, _, (), h => nomatch h
  | _, _, .cons name value _ more, entry, (slot, slots), h => by
      rw [Fields.isFilled] at h
      rw [Fields.fill]
      split at h
      · next hname => exact ⟨_, by rw [if_pos hname, if_pos h]⟩
      · next hname =>
          obtain ⟨cause, hcause⟩ := more.fill_of_isFilled entry slots h
          exact ⟨cause, by rw [if_neg hname, hcause]; rfl⟩

/-- The inside of an object is read as a record, if the entry of each empty slot is. -/
theorem agrees_readRecordFields {α σ : Type} {fields : Fields α σ} {read : String → σ → Reader σ}
    (hread : ∀ key slots u value v, readTree limit u = .ok (value, v) →
      fields.isFilled key slots = false →
      Agrees v (fields.fill .given (key, value) slots) (read key slots u))
    (label : String) (ofItems : List Json → Except Cause (α × List Json))
    {entries : List (String × Json)} (h : ReadsFields (readTree limit) true s entries rest) :
    Agrees rest (takeRecord .given label fields (fields.fill .given) ofItems (.object entries))
      (readRecordFields fields read s) := by
  have hslot (key : String) (slots : σ) (t u : List Char) (value : Json) (v : List Char)
      (hcolon : readColon t = .ok u) (hvalue : readTree limit u = .ok (value, v)) :
      Agrees v (fields.fill .given (key, value) slots) (readSlot fields read key slots t) := by
    rw [readSlot]
    split
    · next hfilled =>
        obtain ⟨cause, hcause⟩ := fields.fill_of_isFilled (key, value) slots hfilled
        rw [hcause]
        exact .error _ _
    · next hempty =>
        rw [hcolon, Except.ok_bind]
        exact hread key slots u value v hvalue (Bool.eq_false_iff.mpr hempty)
  have hfields : Agrees rest
      (entries.foldlM (fun slots entry => fields.fill .given entry slots) fields.blank)
      (readFields (readSlot fields read) (s.length + 1) true fields.blank s) :=
    agrees_readFields hslot h fields.blank (Nat.lt_succ_of_le h.length_le)
  rw [takeRecord, readRecordFields]
  refine hfields.bind fun slots _ => ?_
  dsimp only
  cases fields.complete slots with
  | ok a => exact .ok a
  | error name => exact .error _ _

end Parts

theorem Format.choice_ofJson {α β : Type} (label tag : String) (variants : Variants α)
    (packing : Repacking α β) (json : Json) :
    (Format.choice label tag variants packing).ofJson .given json =
      taggedOf label tag variants.names json >>= fun tagged =>
        (variants.ofContent tagged.1 tagged.2).map packing.pack := by
  rw [Format.ofJson, taggedOf]
  cases splitTag label tag json with
  | error cause => rfl
  | ok split =>
      simp only [Except.ok_bind]
      cases variantName variants.names split.1 <;> rfl

mutual
/-- A text that is read as a tree is read as the value that the tree is taken as. -/
theorem Format.agrees_read : {α : Type} → (format : Format α) → ∀ {limit : Nat} {s rest : List Char}
    {json : Json}, readTree limit s = .ok (json, rest) →
    Agrees rest (format.ofJson .given json) (format.read limit s)
  | _, .text, limit, s, rest, json, h => agrees_readStringValue .string h
  | _, .textMap, limit, s, rest, json, h => by
      simp only [Format.read]
      cases reads_of_readTree h with
      | object hs hfields hclose =>
          have hread := agrees_readFields
            (fun key m t u value v hcolon hvalue => agrees_readTextEntry hcolon hvalue m) hfields .empty
            (Nat.lt_succ_of_le hfields.length_le)
          rw [foldlM_putText] at hread
          simp only [hs, Format.ofJson, textMapOf, ← Except.map_eq_bind]
          exact hread.enclosed hclose
      | _ =>
          split
          · next hs => exact absurd ((reads_of_readTree h).beginsWith hs) (by simp [BeginsWith])
          · exact agrees_wrongType _ _ _
  | _, .list item, limit, s, rest, json, h => by
      simp only [Format.read, readListValue]
      cases reads_of_readTree h with
      | array hs hitems hclose =>
          have hread := agrees_readItems (fun t json v h => item.agrees_read h) hitems
            (Nat.lt_succ_of_le hitems.length_le)
          simp only [hs, Format.ofJson]
          exact hread.enclosed hclose
      | _ =>
          split
          · next hs => exact absurd ((reads_of_readTree h).beginsWith hs) (by simp [BeginsWith])
          · exact agrees_wrongType _ _ _
  | _, .optional value, limit, s, rest, json, h => by
      have hvalue := value.agrees_read ((readTree_skipSpace limit s).trans h)
      simp only [Format.read]
      cases reads_of_readTree h with
      | null hs hword =>
          simp only [hs, hword, Format.ofJson]
          exact .ok none
      | _ =>
          split
          · next hs => exact absurd ((reads_of_readTree h).beginsWith hs) (by simp [BeginsWith])
          · simp only [Format.ofJson]
            exact hvalue.map some
  | _, .record label fields packing, limit, s, rest, json, h => by
      simp only [Format.read, Format.ofJson, Except.map_eq_bind]
      cases reads_of_readTree h with
      | object hs hfields hclose =>
          have hread := agrees_readRecordFields
            (fun key slots u value v hvalue hempty => fields.agrees_readEntry key hvalue slots hempty)
            label (fields.ofItems .given (.fields label fields.count) 0) hfields
          simp only [hs]
          exact (hread.enclosed hclose).bind fun a _ => .ok (packing.pack a)
      | array hs hitems hclose =>
          have hread := fields.agrees_readItems (.fields label fields.count) 0 hitems
          simp only [hs]
          exact (hread.enclosed hclose _).bind fun a _ => .ok (packing.pack a)
      | _ =>
          split
          · next hs => exact absurd ((reads_of_readTree h).beginsWith hs) (by simp [BeginsWith])
          · next hs => exact absurd ((reads_of_readTree h).beginsWith hs) (by simp [BeginsWith])
          · exact agrees_wrongType _ _ _
  | _, .choice label tag variants packing, limit, s, rest, json, h => by
      have hcontent (tagged : String × Json) : Agrees rest
          ((variants.ofContent tagged.1 tagged.2).map packing.pack)
          (match variants.ofContent tagged.1 tagged.2 with
            | .ok a => .ok (packing.pack a, rest)
            | .error cause => .error (.loose cause rest)) := by
        cases variants.ofContent tagged.1 tagged.2 with
        | ok a => exact .ok _
        | error cause => exact .error _ _
      simp only [Format.choice_ofJson, Format.read]
      cases reads_of_readTree h with
      | object hs hfields hclose =>
          have hread := agrees_readTaggedFields label tag variants.names hfields
          simp only [hs]
          exact (hread.enclosed hclose).bind fun tagged _ => hcontent tagged
      | array hs hitems hclose =>
          have hread := agrees_readTaggedItems label tag variants.names hitems
          simp only [hs]
          exact (hread.enclosed hclose).bind fun tagged _ => hcontent tagged
      | _ =>
          split
          · next hs => exact absurd ((reads_of_readTree h).beginsWith hs) (by simp [BeginsWith])
          · next hs => exact absurd ((reads_of_readTree h).beginsWith hs) (by simp [BeginsWith])
          · exact (agrees_wrongType _ _ _).bind fun tagged _ => hcontent tagged

/-- The entry of a field is read into its slot as it is put there from a tree. -/
theorem Fields.agrees_readEntry : {α σ : Type} → (fields : Fields α σ) → ∀ (key : String) {limit : Nat}
    {s rest : List Char} {value : Json}, readTree limit s = .ok (value, rest) → ∀ slots,
    fields.isFilled key slots = false →
    Agrees rest (fields.fill .given (key, value) slots) (fields.readEntry limit key slots s)
  | _, _, .nil, key, limit, s, rest, json, h, (), _ => by
      simp only [Fields.readEntry, skipValue_of_readTree h]
      exact .ok ()
  | _, _, .cons name value _ more, key, limit, s, rest, json, h, (slot, slots), hempty => by
      rw [Fields.isFilled] at hempty
      simp only [Fields.fill, Fields.readEntry]
      split at hempty
      · next hname =>
          rw [if_pos hname, if_pos hname, if_neg (by simp [hempty])]
          exact (value.agrees_read h).map fun a => (some a, slots)
      · next hname =>
          rw [if_neg hname, if_neg hname]
          exact (more.agrees_readEntry key h slots hempty).map fun slots => (slot, slots)

/-- The items of a list are read as the fields in declaration order. -/
theorem Fields.agrees_readItems : {α σ : Type} → (fields : Fields α σ) → ∀ (extent : Extent)
    (index : Nat) {limit : Nat} {s rest : List Char} {items : List Json},
    ReadsItems (readTree limit) (index == 0) s items rest →
    AgreesUpTo (readTree limit) rest (fields.ofItems .given extent index items)
      (fields.readItems limit extent index s)
  | _, _, .nil, extent, index, limit, s, rest, items, h => .ok () h
  | _, _, .cons _ value default more, extent, index, limit, s, rest, items, h => by
      cases h with
      | nil hnext =>
          have hnone : ReadsItems (readTree limit) (index + 1 == 0) s [] s :=
            .nil (nextItem?_none hnext false)
          have hmore := more.agrees_readItems extent (index + 1) hnone
          simp only [Fields.ofItems, Fields.readItems, hnext, Except.ok_bind]
          cases default with
          | none => exact .error _ _
          | some a => exact hmore.map fun others => (a, others)
      | cons hnext hitem hmore =>
          simp only [Fields.ofItems, Fields.readItems, hnext, Except.ok_bind]
          exact .cons (value.agrees_read hitem) (more.agrees_readItems extent (index + 1) hmore)
end

variable {α : Type} (format : Format α)

theorem Format.ofTree_eq_ok_iff (json : Json) (a : α) :
    format.ofTree json = .ok a ↔ format.ofJson .given json = .ok a := by
  rw [Format.ofTree]
  cases format.ofJson .given json <;> simp

/-- A text with a tree in it is read as a value exactly if the tree is taken as that value. -/
theorem Format.parse_eq_ok_iff_ofTree {text : String} {json : Json} (h : Json.parse text = .ok json)
    (a : α) : format.parse text = .ok a ↔ format.ofTree json = .ok a := by
  obtain ⟨rest, hread, hend⟩ := readText_eq_ok_iff.mp h
  have hagrees := format.agrees_read hread
  rw [Format.parse, readText_eq_ok_iff, Format.ofTree_eq_ok_iff]
  constructor
  · rintro ⟨rest', hvalue, -⟩
    exact hagrees.known_eq_ok hvalue
  · intro hvalue
    exact ⟨rest, hagrees.eq_ok hvalue, hend⟩

end SwaggerGen
