import SwaggerGen.Json.TreeReader
import SwaggerGen.Proofs.Json.StringText

/-!
# Reading printed trees

What a printer puts around items are blanks, and a reader passes over blanks. So a tree without numbers is
read back from its text in every style, as long as the reader may open as many containers inside one
another as the tree has.
-/

namespace SwaggerGen.Json

/-- Whether a text consists of blanks. -/
def IsBlank (s : List Char) : Prop := ∀ c ∈ s, isSpace c = true

theorem isBlank_nil : IsBlank [] := nofun

theorem skipSpace_append {blank : List Char} (h : IsBlank blank) (s : List Char) :
    skipSpace (blank ++ s) = skipSpace s :=
  List.dropWhile_append_of_pos h

theorem skipSpace_cons {c : Char} (h : isSpace c = false) (s : List Char) :
    skipSpace (c :: s) = c :: s :=
  List.dropWhile_cons_of_neg (by simp [h])

/-- Whether all that a style puts around items are blanks. -/
structure Style.Spaced (style : Style) : Prop where
  lineBreak : ∀ level, IsBlank (style.lineBreak level)
  gap : IsBlank style.gap

theorem Style.spaced_compact : Style.compact.Spaced := ⟨fun _ => isBlank_nil, isBlank_nil⟩

theorem Style.spaced_pretty : Style.pretty.Spaced where
  lineBreak level c h := by
    rcases List.mem_cons.mp h with rfl | h
    · rfl
    · rw [List.eq_of_mem_replicate h]
      rfl
  gap c h := by
    rw [List.mem_singleton.mp h]
    rfl

mutual
/-- Whether there is no number in a tree. -/
def NumberFree : Json → Prop
  | number _ => False
  | array items => ItemsNumberFree items
  | object fields => FieldsNumberFree fields
  | _ => True

def ItemsNumberFree : List Json → Prop
  | [] => True
  | item :: rest => item.NumberFree ∧ ItemsNumberFree rest

def FieldsNumberFree : List (String × Json) → Prop
  | [] => True
  | (_, value) :: rest => value.NumberFree ∧ FieldsNumberFree rest
end

theorem itemsNumberFree_iff (items : List Json) :
    ItemsNumberFree items ↔ ∀ item ∈ items, item.NumberFree := by
  induction items with
  | nil => simp [ItemsNumberFree]
  | cons item rest ih => simp [ItemsNumberFree, ih]

theorem fieldsNumberFree_iff (fields : List (String × Json)) :
    FieldsNumberFree fields ↔ ∀ field ∈ fields, field.2.NumberFree := by
  induction fields with
  | nil => simp [FieldsNumberFree]
  | cons field rest ih => simp [FieldsNumberFree, ih]

mutual
def depth : Json → Nat
  | array items => itemsDepth items + 1
  | object fields => fieldsDepth fields + 1
  | _ => 0

def itemsDepth : List Json → Nat
  | [] => 0
  | item :: rest => max item.depth (itemsDepth rest)

def fieldsDepth : List (String × Json) → Nat
  | [] => 0
  | (_, value) :: rest => max value.depth (fieldsDepth rest)
end

theorem itemsDepth_le_iff {items : List Json} {n : Nat} :
    itemsDepth items ≤ n ↔ ∀ item ∈ items, item.depth ≤ n := by
  induction items with
  | nil => simp [itemsDepth]
  | cons item rest ih => rw [itemsDepth, Nat.max_le, ih, List.forall_mem_cons]

theorem fieldsDepth_le_iff {fields : List (String × Json)} {n : Nat} :
    fieldsDepth fields ≤ n ↔ ∀ field ∈ fields, field.2.depth ≤ n := by
  induction fields with
  | nil => simp [fieldsDepth]
  | cons field rest ih => rw [fieldsDepth, Nat.max_le, ih, List.forall_mem_cons]

section Write

variable (style : Style) (level : Nat)

/-- The character that the text of a tree without numbers begins with. -/
def lead : Json → Char
  | null => 'n'
  | boolean b => if b then 't' else 'f'
  | number _ => '0'
  | string _ => '"'
  | array _ => '['
  | object _ => '{'

theorem write_eq_lead_cons {json : Json} (h : json.NumberFree) :
    ∃ more, write style level json = json.lead :: more := by
  cases json with
  | null => exact ⟨_, rfl⟩
  | boolean b => cases b <;> exact ⟨_, rfl⟩
  | number n => exact h.elim
  | string s => exact ⟨_, rfl⟩
  | array items => cases items <;> exact ⟨_, rfl⟩
  | object fields => cases fields <;> exact ⟨_, rfl⟩

theorem isSpace_lead (json : Json) : isSpace json.lead = false := by
  cases json with
  | boolean b => cases b <;> rfl
  | _ => rfl

variable {style}

theorem skipSpace_quote {blank : List Char} (hblank : IsBlank blank) (s : String) (rest : List Char) :
    skipSpace (blank ++ quote s ++ rest) = '"' :: (s.toList.flatMap escapeChar ++ '"' :: rest) := by
  rw [List.append_assoc, skipSpace_append hblank]
  simp [quote, skipSpace_cons, isSpace]

/-- The text of an array: its items, perhaps blanks, and the closing bracket. -/
theorem skipSpace_array (hstyle : style.Spaced) (items : List Json) :
    ∃ inner, IsBlank inner ∧ ∀ {blank : List Char}, IsBlank blank → ∀ rest,
      skipSpace (blank ++ write style level (array items) ++ rest) =
        '[' :: (writeItems style (level + 1) true items ++ inner ++ ']' :: rest) := by
  cases items with
  | nil =>
      refine ⟨[], isBlank_nil, fun hblank rest => ?_⟩
      rw [List.append_assoc, skipSpace_append hblank]
      rfl
  | cons item items =>
      refine ⟨style.lineBreak level, hstyle.lineBreak level, fun hblank rest => ?_⟩
      rw [List.append_assoc, skipSpace_append hblank]
      simp [write, skipSpace_cons, isSpace]

/-- The text of an object: its fields, perhaps blanks, and the closing brace. -/
theorem skipSpace_object (hstyle : style.Spaced) (fields : List (String × Json)) :
    ∃ inner, IsBlank inner ∧ ∀ {blank : List Char}, IsBlank blank → ∀ rest,
      skipSpace (blank ++ write style level (object fields) ++ rest) =
        '{' :: (writeFields style (level + 1) true fields ++ inner ++ '}' :: rest) := by
  cases fields with
  | nil =>
      refine ⟨[], isBlank_nil, fun hblank rest => ?_⟩
      rw [List.append_assoc, skipSpace_append hblank]
      rfl
  | cons field fields =>
      refine ⟨style.lineBreak level, hstyle.lineBreak level, fun hblank rest => ?_⟩
      rw [List.append_assoc, skipSpace_append hblank]
      simp [write, skipSpace_cons, isSpace]

end Write

theorem readColon_colon (rest : List Char) : readColon (':' :: rest) = .ok rest := by
  rw [readColon, skipSpace_cons rfl]
  rfl

/-- The next item is behind the comma, which is not the last one. -/
theorem nextItem?_comma {s t : List Char} {c : Char} (hahead : skipSpace s = c :: t)
    (hbracket : c ≠ ']') : nextItem? false (',' :: s) = .ok (some (c :: t)) := by
  rw [nextItem?, skipSpace_cons rfl]
  split
  · next heq => cases heq
  · next heq => exact absurd (List.cons.inj heq).1 (by decide)
  · next heq =>
      obtain ⟨rfl, rfl⟩ := List.cons.inj heq
      rw [if_neg (by decide), if_pos rfl, hahead]
      split
      · next heq => cases heq
      · next heq => exact absurd (List.cons.inj heq).1 hbracket
      · rfl

section Containers

variable {α : Type} {style : Style} {level : Nat} {blank : List Char} (hblank : IsBlank blank)
include hblank

theorem closeList_blank (rest : List Char) : closeList (blank ++ ']' :: rest) = .ok rest := by
  rw [closeList, skipSpace_append hblank, skipSpace_cons rfl]
  rfl

theorem closeObject_blank (rest : List Char) : closeObject (blank ++ '}' :: rest) = .ok rest := by
  rw [closeObject, skipSpace_append hblank, skipSpace_cons rfl]
  rfl

theorem nextItem?_end (first : Bool) (rest : List Char) :
    nextItem? first (blank ++ ']' :: rest) = .ok none := by
  rw [nextItem?, skipSpace_append hblank, skipSpace_cons rfl]
  rfl

theorem nextKey?_end (first : Bool) (rest : List Char) :
    nextKey? first (blank ++ '}' :: rest) = .ok none := by
  rw [nextKey?, skipSpace_append hblank, skipSpace_cons rfl]
  rfl

theorem enclosed_list {inside : Reader α} {s rest : List Char} {value : α}
    (h : inside s = .ok (value, blank ++ ']' :: rest)) :
    enclosed closeList afterListEnd inside s = .ok (value, rest) := by
  rw [enclosed, h]
  exact congrArg (Except.map (value, ·)) (closeList_blank hblank rest)

theorem enclosed_object {inside : Reader α} {s rest : List Char} {value : α}
    (h : inside s = .ok (value, blank ++ '}' :: rest)) :
    enclosed closeObject afterObjectEnd inside s = .ok (value, rest) := by
  rw [enclosed, h]
  exact congrArg (Except.map (value, ·)) (closeObject_blank hblank rest)

/-- The next item is where its text begins, behind a comma unless it is the first. -/
theorem nextItem?_lead (first : Bool) (json : Json) (rest : List Char) :
    nextItem? first ((if first then [] else [',']) ++ blank ++ json.lead :: rest) =
      .ok (some (json.lead :: rest)) := by
  have hspace := isSpace_lead json
  have hbracket : json.lead ≠ ']' := by
    cases json with
    | boolean b => cases b <;> decide
    | _ => simp [lead]
  cases first with
  | true =>
      rw [if_pos rfl, List.nil_append, nextItem?, skipSpace_append hblank, skipSpace_cons hspace]
      simp
  | false =>
      have hahead : skipSpace (blank ++ json.lead :: rest) = json.lead :: rest := by
        rw [skipSpace_append hblank, skipSpace_cons hspace]
      rw [if_neg (by decide), List.append_assoc, List.singleton_append,
        nextItem?_comma hahead hbracket]

/-- The next key is read behind its quote, and behind a comma unless it is the first. -/
theorem nextKey?_quote (first : Bool) (key : String) (rest : List Char) :
    nextKey? first ((if first then [] else [',']) ++ blank ++ quote key ++ rest) =
      .ok (some (key, rest)) := by
  have hquote : quote key ++ rest = '"' :: (key.toList.flatMap escapeChar ++ '"' :: rest) := by
    simp [quote]
  rw [List.append_assoc, hquote]
  cases first with
  | true =>
      rw [if_pos rfl, List.nil_append, nextKey?, skipSpace_append hblank, skipSpace_cons rfl]
      simp [readString_escaped]
  | false =>
      rw [if_neg (by decide), List.append_assoc, List.singleton_append, nextKey?,
        skipSpace_cons (c := ',') rfl]
      simp [skipSpace_append hblank, skipSpace_cons (c := '"') rfl, readString_escaped]

end Containers

theorem length_le_writeItems (style : Style) (level : Nat) (first : Bool) {items : List Json}
    (h : ItemsNumberFree items) : items.length ≤ (writeItems style level first items).length := by
  induction items generalizing first with
  | nil => exact Nat.le_refl _
  | cons item rest ih =>
      obtain ⟨more, hlead⟩ := write_eq_lead_cons style level h.1
      have hrest := ih false h.2
      simp only [writeItems, hlead, List.length_append, List.length_cons]
      omega

theorem length_le_writeFields (style : Style) (level : Nat) (first : Bool)
    (fields : List (String × Json)) : fields.length ≤ (writeFields style level first fields).length := by
  induction fields generalizing first with
  | nil => exact Nat.le_refl _
  | cons field rest ih =>
      have hrest := ih false
      simp only [writeFields, List.length_append, List.length_cons]
      omega

section Inside

variable {tree : Reader Json} {style : Style} (hstyle : style.Spaced) {level : Nat}
  {blank : List Char} (hblank : IsBlank blank)
include hstyle hblank

/-- Items are read one by one, if each of them is read back from its own text. -/
theorem readItems_writeItems {items : List Json} (hfree : ItemsNumberFree items)
    (hitem : ∀ item ∈ items, ∀ rest, tree (write style level item ++ rest) = .ok (item, rest))
    {bound : Nat} (hbound : items.length < bound) (first : Bool) (rest : List Char) :
    readItems tree bound first (writeItems style level first items ++ blank ++ ']' :: rest) =
      .ok (items, blank ++ ']' :: rest) := by
  induction items generalizing bound first with
  | nil =>
      obtain ⟨bound, rfl⟩ := Nat.exists_eq_add_of_lt hbound
      simp [writeItems, readItems, nextItem?_end hblank]
  | cons item items ih =>
      obtain ⟨bound, rfl⟩ := Nat.exists_eq_add_of_lt hbound
      rw [List.forall_mem_cons] at hitem
      obtain ⟨more, hlead⟩ := write_eq_lead_cons style level hfree.1
      have hnext := nextItem?_lead (hstyle.lineBreak level) first item
      have hlength : items.length < (item :: items).length + bound := by
        rw [List.length_cons]
        omega
      have hitems := ih hfree.2 hitem.2 hlength false
      have hfirst := hitem.1
      rw [hlead] at hfirst
      rw [writeItems, readItems, hlead]
      simp only [List.append_assoc, List.cons_append] at hnext hitems hfirst ⊢
      rw [hnext]
      simp only [Except.ok_bind, hfirst, hitems]

/-- Fields are read one by one and gathered in front of those before. -/
theorem readFields_writeFields {fields : List (String × Json)}
    (hfield : ∀ field ∈ fields, ∀ rest,
      tree (style.gap ++ write style level field.2 ++ rest) = .ok (field.2, rest))
    (before : List (String × Json)) {bound : Nat} (hbound : fields.length < bound) (first : Bool)
    (rest : List Char) :
    readFields (readTreeField tree) bound first before
        (writeFields style level first fields ++ blank ++ '}' :: rest) =
      .ok (fields.reverse ++ before, blank ++ '}' :: rest) := by
  induction fields generalizing bound first before with
  | nil =>
      obtain ⟨bound, rfl⟩ := Nat.exists_eq_add_of_lt hbound
      simp [writeFields, readFields, nextKey?_end hblank]
  | cons field fields ih =>
      obtain ⟨key, value⟩ := field
      obtain ⟨bound, rfl⟩ := Nat.exists_eq_add_of_lt hbound
      rw [List.forall_mem_cons] at hfield
      have hnext := nextKey?_quote (hstyle.lineBreak level) first key
      have hlength : fields.length < fields.length + 1 + bound := by omega
      have hfields := ih hfield.2 ((key, value) :: before) hlength false
      have hvalue := hfield.1
      rw [writeFields, readFields, List.reverse_cons, List.append_assoc]
      simp only [List.append_assoc, List.cons_append] at hnext hvalue hfields ⊢
      rw [hnext]
      simp only [Except.ok_bind, readTreeField, readColon_colon, hvalue]
      exact hfields

/-- The inside of a list is read in full: the length of its text is bound enough. -/
theorem readItems_inside {items : List Json} (hfree : ItemsNumberFree items)
    (hitem : ∀ item ∈ items, ∀ rest, tree (write style level item ++ rest) = .ok (item, rest))
    (rest : List Char) {text : List Char}
    (htext : text = writeItems style level true items ++ blank ++ ']' :: rest) :
    readItems tree (text.length + 1) true text = .ok (items, blank ++ ']' :: rest) := by
  have hlength := length_le_writeItems style level true hfree
  have hbound : items.length < text.length + 1 := by
    simp only [htext, List.length_append]
    omega
  rw [htext] at hbound ⊢
  exact readItems_writeItems hstyle hblank hfree hitem hbound true rest

/-- The inside of an object is read in full. -/
theorem readFields_inside {fields : List (String × Json)}
    (hfield : ∀ field ∈ fields, ∀ rest,
      tree (style.gap ++ write style level field.2 ++ rest) = .ok (field.2, rest))
    (rest : List Char) {text : List Char}
    (htext : text = writeFields style level true fields ++ blank ++ '}' :: rest) :
    readFields (readTreeField tree) (text.length + 1) true [] text =
      .ok (fields.reverse, blank ++ '}' :: rest) := by
  have hlength := length_le_writeFields style level true fields
  have hbound : fields.length < text.length + 1 := by
    simp only [htext, List.length_append]
    omega
  have hread := readFields_writeFields hstyle hblank hfield [] hbound true rest
  rw [List.append_nil] at hread
  rw [htext] at hread ⊢
  exact hread

end Inside

theorem readTree_eq_readValue (limit : Nat) :
    ∃ list object, readTree limit = readValue list object := by
  cases limit <;> exact ⟨_, _, rfl⟩

section Tree

variable {style : Style}

mutual
/-- A tree without numbers is read back from its text, whatever follows it. -/
theorem readTree_write (hstyle : style.Spaced) : (json : Json) → json.NumberFree →
    ∀ (limit level : Nat) {blank : List Char}, IsBlank blank → ∀ rest, json.depth ≤ limit →
    readTree limit (blank ++ write style level json ++ rest) = .ok (json, rest)
  | null, _, limit, _, blank, hblank, rest, _ => by
      obtain ⟨list, object, hread⟩ := readTree_eq_readValue limit
      rw [hread, List.append_assoc, readValue, skipSpace_append hblank]
      rfl
  | boolean b, _, limit, _, blank, hblank, rest, _ => by
      obtain ⟨list, object, hread⟩ := readTree_eq_readValue limit
      rw [hread, List.append_assoc, readValue, skipSpace_append hblank]
      cases b <;> rfl
  | string s, _, limit, _, blank, hblank, rest, _ => by
      obtain ⟨list, object, hread⟩ := readTree_eq_readValue limit
      rw [hread, readValue, write, skipSpace_quote hblank]
      exact congrArg (Except.map fun r => (string r.1, r.2)) (readString_escaped s rest)
  | array items, hfree, 0, _, _, _, _, hdepth => absurd hdepth (Nat.not_succ_le_zero _)
  | array items, hfree, limit + 1, level, blank, hblank, rest, hdepth => by
      have hitems := readTree_writeItems hstyle items hfree limit (level + 1)
        (Nat.le_of_succ_le_succ hdepth)
      obtain ⟨inner, hinner, hspace⟩ := skipSpace_array level hstyle items
      have hread := readItems_inside hstyle hinner hfree
        (fun item hitem rest => hitems item hitem isBlank_nil rest) rest rfl
      rw [readTree, readValue, hspace hblank]
      exact congrArg (Except.map fun r => (array r.1, r.2)) (enclosed_list hinner hread)
  | object fields, hfree, 0, _, _, _, _, hdepth => absurd hdepth (Nat.not_succ_le_zero _)
  | object fields, hfree, limit + 1, level, blank, hblank, rest, hdepth => by
      have hfields := readTree_writeFields hstyle fields hfree limit (level + 1)
        (Nat.le_of_succ_le_succ hdepth)
      obtain ⟨inner, hinner, hspace⟩ := skipSpace_object level hstyle fields
      have hread := readFields_inside hstyle hinner
        (fun field hfield rest => hfields field hfield hstyle.gap rest) rest rfl
      have hmap := congrArg (Except.map fun r => (object r.1.reverse, r.2)) (enclosed_object hinner hread)
      rw [Except.ok_map, List.reverse_reverse] at hmap
      rw [readTree, readValue, hspace hblank]
      exact hmap

theorem readTree_writeItems (hstyle : style.Spaced) : (items : List Json) → ItemsNumberFree items →
    ∀ (limit level : Nat), itemsDepth items ≤ limit →
    ∀ item ∈ items, ∀ {blank : List Char}, IsBlank blank → ∀ rest,
    readTree limit (blank ++ write style level item ++ rest) = .ok (item, rest)
  | [], _, _, _, _ => nofun
  | item :: items, hfree, limit, level, hdepth => by
      rw [itemsDepth, Nat.max_le] at hdepth
      have hmore := readTree_writeItems hstyle items hfree.2 limit level hdepth.2
      refine List.forall_mem_cons.mpr ⟨fun hblank rest => ?_, hmore⟩
      exact readTree_write hstyle item hfree.1 limit level hblank rest hdepth.1

theorem readTree_writeFields (hstyle : style.Spaced) : (fields : List (String × Json)) →
    FieldsNumberFree fields → ∀ (limit level : Nat), fieldsDepth fields ≤ limit →
    ∀ field ∈ fields, ∀ {blank : List Char}, IsBlank blank → ∀ rest,
    readTree limit (blank ++ write style level field.2 ++ rest) = .ok (field.2, rest)
  | [], _, _, _, _ => nofun
  | (_, value) :: fields, hfree, limit, level, hdepth => by
      rw [fieldsDepth, Nat.max_le] at hdepth
      have hmore := readTree_writeFields hstyle fields hfree.2 limit level hdepth.2
      refine List.forall_mem_cons.mpr ⟨fun hblank rest => ?_, hmore⟩
      exact readTree_write hstyle value hfree.1 limit level hblank rest hdepth.1
end

end Tree

theorem readText_eq_ok {α : Type} {read : Reader α} {text : String} {a : α}
    (h : read text.toList = .ok (a, [])) : readText read text = .ok a := by
  rw [readText, h]
  rfl

/-- The tree of a text, however deep it is. A text opens no more containers than it has characters. -/
def ofText (text : String) : Except InputError Json := readText (readTree text.toList.length) text

section Length

variable (style : Style)

mutual
theorem depth_le_length_write : (json : Json) → ∀ level, json.depth ≤ (write style level json).length
  | null, _ => Nat.zero_le _
  | boolean _, _ => Nat.zero_le _
  | number _, _ => Nat.zero_le _
  | string _, _ => Nat.zero_le _
  | array [], _ => by simp [depth, itemsDepth, write]
  | array (item :: rest), level => by
      have hitems := itemsDepth_le_length_writeItems (item :: rest) (level + 1) true
      simp only [depth, write, List.length_cons, List.length_append]
      omega
  | object [], _ => by simp [depth, fieldsDepth, write]
  | object (field :: rest), level => by
      have hfields := fieldsDepth_le_length_writeFields (field :: rest) (level + 1) true
      simp only [depth, write, List.length_cons, List.length_append]
      omega

theorem itemsDepth_le_length_writeItems : (items : List Json) → ∀ level first,
    itemsDepth items ≤ (writeItems style level first items).length
  | [], _, _ => Nat.zero_le _
  | item :: rest, level, first => by
      have hitem := depth_le_length_write item level
      have hrest := itemsDepth_le_length_writeItems rest level false
      simp only [itemsDepth, writeItems, List.length_append]
      omega

theorem fieldsDepth_le_length_writeFields : (fields : List (String × Json)) → ∀ level first,
    fieldsDepth fields ≤ (writeFields style level first fields).length
  | [], _, _ => Nat.zero_le _
  | (key, value) :: rest, level, first => by
      have hvalue := depth_le_length_write value level
      have hrest := fieldsDepth_le_length_writeFields rest level false
      simp only [fieldsDepth, writeFields, List.length_append]
      omega
end

end Length

/-- A tree without numbers is read back from its whole text. -/
theorem ofText_write {style : Style} (hstyle : style.Spaced) {json : Json} (h : json.NumberFree) :
    ofText (String.ofList (json.write style 0)) = .ok json := by
  have hread := readTree_write hstyle json h (json.write style 0).length 0 isBlank_nil []
    (depth_le_length_write style json 0)
  refine readText_eq_ok ?_
  rw [String.toList_ofList]
  simpa using hread

end SwaggerGen.Json
