import SwaggerGen.Proofs.Json.Text
import SwaggerGen.Proofs.Yaml.Flat

/-!
# YAML text read back

The text of a tree without numbers is read back as the tree. Each value is read up to the line that
follows it, which is indented no further than the container around the value.
-/

namespace SwaggerGen.Yaml

open Json (NumberFree ItemsNumberFree FieldsNumberFree itemsDepth fieldsDepth)

def itemText (indent : Nat) (item : Json) : List Char := '-' :: afterMark indent item

theorem itemLines_eq (indent : Nat) (started : Bool) (items : List Json) :
    itemLines indent started items = linesOf indent (itemText indent) started items := by
  induction items generalizing started with
  | nil => rfl
  | cons item rest ih => rw [itemLines, linesOf, ih, itemText]

def entryText (indent : Nat) (entry : String × Json) : List Char :=
  if isSimpleKey entry.1.toList then
    scalar (indent + 2) entry.1.toList ++ ':' :: afterKey indent entry.2
  else
    '?' :: ' ' :: scalarLine (indent + 2) entry.1.toList ++ spaces indent ++
      ':' :: afterMark indent entry.2

theorem fieldLines_eq (indent : Nat) (started : Bool) (fields : List (String × Json)) :
    fieldLines indent started fields = linesOf indent (entryText indent) started fields := by
  induction fields generalizing started with
  | nil => rfl
  | cons field rest ih =>
      obtain ⟨key, value⟩ := field
      rw [fieldLines, linesOf, ih, entryText]

theorem afterMark_eq_cons (column : Nat) (json : Json) : ∃ t, afterMark column json = ' ' :: t := by
  unfold afterMark
  split
  · exact ⟨_, rfl⟩
  · exact ⟨_, rfl⟩
  · exact ⟨_, flatLine_eq column json⟩

theorem isMark_afterMark (mark : Char) (column : Nat) (json : Json) (rest : List Char) :
    isMark mark (mark :: (afterMark column json ++ rest)) = true := by
  obtain ⟨t, ht⟩ := afterMark_eq_cons column json
  rw [ht, isMark, beq_self_eq_true]
  rfl

theorem endsToken_afterKey (column : Nat) (json : Json) (rest : List Char) :
    endsToken (afterKey column json ++ rest) = true := by
  unfold afterKey
  split
  · rfl
  · rfl
  · rw [flatLine_eq]
    rfl

/-- Behind a space a value is read from there on. -/
theorem readMarked_space (node : Nat → Nat → Reader Json) (column : Nat) {line : List Char}
    (hline : StartsLine line) : readMarked node column (' ' :: line) = node column (column + 2) line := by
  have hahead : (' ' :: line).dropWhile (· == ' ') = line := hline.dropWhile_space
  have hcolumn : column + 1 + ((' ' :: line).length - line.length) = column + 2 := by
    rw [List.length_cons]
    omega
  simp only [readMarked, hahead, hcolumn, hline.all_head?, Bool.false_eq_true, if_false]

theorem readMarked_flatStart (limit column : Nat) {json : Json} (hfree : json.NumberFree)
    (hflat : IsFlat json) {rest : List Char} (hrest : Follows (fun indent _ => indent ≤ column) rest) :
    readMarked (readNode limit) column (' ' :: flatStart column json ++ rest) = some (json, rest) := by
  have hline := (startsLine_flatStart column hfree hflat).append rest
  rw [List.cons_append, readMarked_space _ column hline]
  exact readNode_flatStart limit column (column + 2) hfree hflat hrest

section Containers

variable {limit column : Nat} {rest : List Char}

/-- Whether a value is read behind a mark of a container in a column. -/
def ReadsMarked (limit column : Nat) (json : Json) : Prop :=
  ∀ rest, Follows (fun indent _ => indent ≤ column) rest →
    readMarked (readNode limit) column (afterMark column json ++ rest) = some (json, rest)

/-- The lines that may follow a value of a mapping in a column. -/
def FollowsEntry (column indent : Nat) (line : List Char) : Prop :=
  indent ≤ column ∧ (indent = column → isMark '-' line = false)

/-- Whether a value is read behind a key of a mapping in a column. -/
def ReadsKeyed (limit column : Nat) (json : Json) : Prop :=
  ∀ rest, Follows (FollowsEntry column) rest →
    readKeyed (readNode limit) column (afterKey column json ++ rest) = some (json, rest)

/-- The lines of a sequence begin with the mark of an item. -/
theorem startsLine_itemLines {items : List Json} (hne : items ≠ []) (column : Nat) (rest : List Char) :
    StartsLine (itemLines column true items ++ rest) ∧
      isMark '-' (itemLines column true items ++ rest) = true := by
  rw [itemLines_eq]
  refine linesOf_of_forall column (itemText column) (p := fun s => StartsLine s ∧ isMark '-' s = true)
    hne ?_ rest
  intro item _ t
  exact ⟨⟨by decide, by decide⟩, isMark_afterMark '-' column item t⟩

theorem readSequence_itemLines {mayStop : Bool} {items : List Json} (hne : items ≠ [])
    (hread : ∀ item ∈ items, ReadsMarked limit column item)
    (hrest : Follows (EndsContainer column mayStop (isMark '-')) rest) :
    readSequence (readNode limit) column mayStop (itemLines column true items ++ rest) =
      some (.array items, rest) := by
  have hlength : items.length ≤ (itemLines column true items ++ rest).length + 1 := by
    have hle := length_le_linesOf column (itemText column) true (fun item (_ : item ∈ items) =>
      List.cons_ne_nil '-' (afterMark column item))
    rw [itemLines_eq, List.length_append]
    omega
  have hitem : ∀ item ∈ items, ∀ t, StartsLine (itemText column item ++ t) ∧
      isMark '-' (itemText column item ++ t) = true ∧ column ≤ column := by
    intro item _ t
    exact ⟨⟨by decide, by decide⟩, isMark_afterMark '-' column item t, Nat.le_refl _⟩
  have hbelow : Follows (fun indent _ => indent ≤ column) rest := hrest.imp fun _ _ h => h.le
  have hitems := readItems_linesOf column (itemText column)
    (fun s => readMarked (readNode limit) column s.tail) hne hread hitem hbelow hrest hlength
  rw [← itemLines_eq] at hitems
  simp only [readSequence, hitems, Option.bind_eq_bind, Option.bind_some]

theorem readMarked_key (limit column : Nat) (key : String)
    (hrest : Follows (fun indent _ => indent ≤ column) rest) :
    readMarked (readNode limit) column (' ' :: scalarLine (column + 2) key.toList ++ rest) =
      some (.string key, rest) := by
  have hfree : (Json.string key).NumberFree := trivial
  have hflat : IsFlat (.string key) := ⟨nofun, nofun⟩
  exact readMarked_flatStart limit column hfree hflat hrest

theorem readToken_key {key : List Char} (h : isSimpleKey key = true) (column : Nat)
    (hrest : endsToken rest = true) :
    readToken (scalar (column + 2) key ++ ':' :: rest) =
      some (.string (String.ofList key), ':' :: rest) :=
  readToken_scalar (Nat.succ_pos (column + 1)) (scalar_simpleKey h (column + 2)).1 (.colon hrest)

theorem readEntry_entryText {entry : String × Json} (hmarked : ReadsMarked limit column entry.2)
    (hkeyed : ReadsKeyed limit column entry.2) (hrest : Follows (FollowsEntry column) rest) :
    readEntry (readNode limit) column (entryText column entry ++ rest) = some (entry, rest) := by
  obtain ⟨key, value⟩ := entry
  rw [entryText]
  split
  · next hsimple =>
      have hends := endsToken_afterKey column value rest
      have hkey := readKey_scalar (Nat.succ_pos (column + 1)) hsimple hends
      have hquestion := (startsLine_of_readToken (readToken_key hsimple column hends)).2.2
      rw [List.append_assoc, List.cons_append, readEntry, if_neg (Bool.eq_false_iff.mp hquestion), hkey]
      simp only [Option.bind_eq_bind, Option.bind_some, hkeyed rest hrest, String.ofList_toList]
  · have hcolon := isMark_afterMark ':' column value rest
    have hline : StartsLine (':' :: (afterMark column value ++ rest)) := ⟨by decide, by decide⟩
    have hbelow : Follows (fun indent _ => indent ≤ column)
        (spaces column ++ ':' :: (afterMark column value ++ rest)) :=
      .line hline (Nat.le_refl column)
    have hkey := readMarked_key limit column key hbelow
    have hnext := hline.nextLine_spaces column
    have hvalue := hmarked rest (hrest.imp fun _ _ h => h.1)
    have htext : '?' :: ' ' :: scalarLine (column + 2) key.toList ++ spaces column ++
        ':' :: afterMark column value ++ rest =
        '?' :: (' ' :: scalarLine (column + 2) key.toList ++
          (spaces column ++ ':' :: (afterMark column value ++ rest))) := by
      simp
    have hquestion : isMark '?' ('?' :: (' ' :: scalarLine (column + 2) key.toList ++
        (spaces column ++ ':' :: (afterMark column value ++ rest)))) = true := rfl
    rw [htext, readEntry, if_pos hquestion, List.tail_cons, hkey]
    simp only [Option.bind_eq_bind, Option.bind_some, hnext, hcolon, and_self, if_true, List.tail_cons,
      hvalue]

/-- Whether a text begins a line with an entry of a mapping, not with an item of a sequence. -/
def StartsEntry (s : List Char) : Prop :=
  StartsLine s ∧ isMark '-' s = false ∧ (isMark '?' s || (readKey s).isSome) = true

theorem startsEntry_entryText (column : Nat) (entry : String × Json) (rest : List Char) :
    StartsEntry (entryText column entry ++ rest) := by
  rw [entryText]
  split
  · next hsimple =>
      have hends := endsToken_afterKey column entry.2 rest
      have hkey := readKey_scalar (Nat.succ_pos (column + 1)) hsimple hends
      obtain ⟨hline, hdash, -⟩ := startsLine_of_readToken (readToken_key hsimple column hends)
      rw [List.append_assoc, List.cons_append]
      refine ⟨hline, hdash, ?_⟩
      rw [hkey, Option.isSome_some, Bool.or_true]
  · exact ⟨⟨by decide, by decide⟩, rfl, rfl⟩

theorem readMapping_fieldLines {fields : List (String × Json)} (hne : fields ≠ [])
    (hmarked : ∀ field ∈ fields, ReadsMarked limit column field.2)
    (hkeyed : ∀ field ∈ fields, ReadsKeyed limit column field.2)
    (hrest : Follows (fun indent _ => indent < column) rest) :
    readMapping (readNode limit) column (fieldLines column true fields ++ rest) =
      some (.object fields, rest) := by
  have hitem : ∀ field ∈ fields, ∀ t, StartsLine (entryText column field ++ t) ∧ true = true ∧
      FollowsEntry column column (entryText column field ++ t) := by
    intro field _ t
    obtain ⟨hline, hdash, -⟩ := startsEntry_entryText column field t
    exact ⟨hline, rfl, Nat.le_refl _, fun _ => hdash⟩
  have hnonempty : ∀ field ∈ fields, entryText column field ≠ [] := by
    intro field _
    have hentry := startsEntry_entryText column field []
    rw [List.append_nil] at hentry
    exact hentry.1.ne_nil
  have hlength : fields.length ≤ (fieldLines column true fields ++ rest).length + 1 := by
    have hle := length_le_linesOf column (entryText column) true hnonempty
    rw [fieldLines_eq, List.length_append]
    omega
  have hread : ∀ field ∈ fields, ∀ rest, Follows (FollowsEntry column) rest →
      readEntry (readNode limit) column (entryText column field ++ rest) = some (field, rest) := by
    intro field hfield rest hrest
    exact readEntry_entryText (hmarked field hfield) (hkeyed field hfield) hrest
  have hbound : Follows (FollowsEntry column) rest :=
    hrest.imp fun _ _ hlt => ⟨Nat.le_of_lt hlt, fun heq => absurd heq (Nat.ne_of_lt hlt)⟩
  have hends : Follows (EndsContainer column false fun _ => true) rest := hrest.imp fun _ _ => .inl
  have hfields := readItems_linesOf column (entryText column) (readEntry (readNode limit) column)
    hne hread hitem hbound hends hlength
  rw [← fieldLines_eq] at hfields
  simp only [readMapping, hfields, Option.bind_eq_bind, Option.bind_some]

theorem startsEntry_fieldLines {fields : List (String × Json)} (hne : fields ≠ []) (column : Nat)
    (rest : List Char) : StartsEntry (fieldLines column true fields ++ rest) := by
  rw [fieldLines_eq]
  exact linesOf_of_forall column (entryText column) hne
    (fun field _ t => startsEntry_entryText column field t) rest

theorem readNode_itemLines (outer : Nat) {items : List Json} (hne : items ≠ [])
    (hread : ∀ item ∈ items, ReadsMarked limit column item)
    (hrest : Follows (fun indent _ => indent < column) rest) :
    readNode (limit + 1) outer column (itemLines column true items ++ rest) =
      some (.array items, rest) := by
  have hdash := (startsLine_itemLines hne column rest).2
  have hends : Follows (EndsContainer column false (isMark '-')) rest := hrest.imp fun _ _ => .inl
  rw [readNode, if_pos hdash, readSequence_itemLines hne hread hends]

theorem readNode_fieldLines (outer : Nat) {fields : List (String × Json)} (hne : fields ≠ [])
    (hmarked : ∀ field ∈ fields, ReadsMarked limit column field.2)
    (hkeyed : ∀ field ∈ fields, ReadsKeyed limit column field.2)
    (hrest : Follows (fun indent _ => indent < column) rest) :
    readNode (limit + 1) outer column (fieldLines column true fields ++ rest) =
      some (.object fields, rest) := by
  obtain ⟨-, hdash, hkey⟩ := startsEntry_fieldLines hne column rest
  rw [readNode, if_neg (Bool.eq_false_iff.mp hdash), if_pos hkey,
    readMapping_fieldLines hne hmarked hkeyed hrest]

theorem readsMarked_array {items : List Json} (hne : items ≠ [])
    (hread : ∀ item ∈ items, ReadsMarked limit (column + 2) item) :
    ReadsMarked (limit + 1) column (.array items) := by
  intro rest hrest
  have hinner := hrest.imp (q := fun indent _ => indent < column + 2) fun _ _ h => by omega
  have hline := (startsLine_itemLines hne (column + 2) rest).1
  have htext : afterMark column (.array items) ++ rest =
      ' ' :: (itemLines (column + 2) true items ++ rest) := by
    cases items with
    | nil => exact absurd rfl hne
    | cons item more => rfl
  rw [htext, readMarked_space _ column hline, readNode_itemLines column hne hread hinner]

theorem readsMarked_object {fields : List (String × Json)} (hne : fields ≠ [])
    (hmarked : ∀ field ∈ fields, ReadsMarked limit (column + 2) field.2)
    (hkeyed : ∀ field ∈ fields, ReadsKeyed limit (column + 2) field.2) :
    ReadsMarked (limit + 1) column (.object fields) := by
  intro rest hrest
  have hinner := hrest.imp (q := fun indent _ => indent < column + 2) fun _ _ h => by omega
  have hline := (startsEntry_fieldLines hne (column + 2) rest).1
  have htext : afterMark column (.object fields) ++ rest =
      ' ' :: (fieldLines (column + 2) true fields ++ rest) := by
    cases fields with
    | nil => exact absurd rfl hne
    | cons field more => rfl
  rw [htext, readMarked_space _ column hline, readNode_fieldLines column hne hmarked hkeyed hinner]

/-- Behind a break a value is read from the next line on. -/
theorem readKeyed_break (node : Nat → Nat → Reader Json) (column indent : Nat) {line : List Char}
    (hline : StartsLine line) :
    readKeyed node column ('\n' :: (spaces indent ++ line)) =
      if column < indent then node column indent line
      else if indent = column ∧ isMark '-' line = true then readSequence node column true line
      else some (.null, spaces indent ++ line) := by
  have hahead : ('\n' :: (spaces indent ++ line)).dropWhile (· == ' ') =
      '\n' :: (spaces indent ++ line) := rfl
  have hnext : nextLine ('\n' :: (spaces indent ++ line)) = some (indent, line) :=
    hline.nextLine_spaces indent
  have hfeed : ('\n' :: (spaces indent ++ line)).head?.all isBreak = true := rfl
  have hend : endLine ('\n' :: (spaces indent ++ line)) = some (spaces indent ++ line) := rfl
  simp only [readKeyed, hahead, hnext, hfeed, hend, if_true, Option.map_some]

theorem readsKeyed_array {items : List Json} (hne : items ≠ [])
    (hread : ∀ item ∈ items, ReadsMarked limit column item) :
    ReadsKeyed limit column (.array items) := by
  intro rest hrest
  obtain ⟨hline, hdash⟩ := startsLine_itemLines hne column rest
  have htext : afterKey column (.array items) ++ rest =
      '\n' :: (spaces column ++ (itemLines column true items ++ rest)) := by
    have hlines := linesOf_false_eq column (itemText column) hne
    rw [← itemLines_eq, ← itemLines_eq] at hlines
    cases items with
    | nil => exact absurd rfl hne
    | cons item more => rw [afterKey, hlines, List.cons_append, List.append_assoc]
  have hends : Follows (EndsContainer column true (isMark '-')) rest := by
    refine hrest.imp fun indent line h => ?_
    rcases Nat.lt_or_eq_of_le h.1 with hlt | heq
    · exact .inl hlt
    · exact .inr ⟨heq, rfl, h.2 heq⟩
  rw [htext, readKeyed_break _ column column hline, if_neg (Nat.lt_irrefl column),
    if_pos ⟨rfl, hdash⟩, readSequence_itemLines hne hread hends]

theorem readsKeyed_object {fields : List (String × Json)} (hne : fields ≠ [])
    (hmarked : ∀ field ∈ fields, ReadsMarked limit (column + 2) field.2)
    (hkeyed : ∀ field ∈ fields, ReadsKeyed limit (column + 2) field.2) :
    ReadsKeyed (limit + 1) column (.object fields) := by
  intro rest hrest
  have hinner := hrest.imp (q := fun indent _ => indent < column + 2) fun _ _ h =>
    Nat.lt_of_le_of_lt h.1 (by omega)
  have hline := (startsEntry_fieldLines hne (column + 2) rest).1
  have htext : afterKey column (.object fields) ++ rest =
      '\n' :: (spaces (column + 2) ++ (fieldLines (column + 2) true fields ++ rest)) := by
    have hlines := linesOf_false_eq (column + 2) (entryText (column + 2)) hne
    rw [← fieldLines_eq, ← fieldLines_eq] at hlines
    cases fields with
    | nil => exact absurd rfl hne
    | cons field more => rw [afterKey, hlines, List.cons_append, List.append_assoc]
  rw [htext, readKeyed_break _ column (column + 2) hline, if_pos (by omega),
    readNode_fieldLines column hne hmarked hkeyed hinner]

theorem afterMark_of_isFlat {json : Json} (hflat : IsFlat json) (column : Nat) :
    afterMark column json = ' ' :: flatStart column json := by
  unfold afterMark
  split
  · next item more => exact absurd (hflat.1 _ rfl) (List.cons_ne_nil item more)
  · next field more => exact absurd (hflat.2 _ rfl) (List.cons_ne_nil field more)
  · exact flatLine_eq column json

theorem afterKey_of_isFlat {json : Json} (hflat : IsFlat json) (column : Nat) :
    afterKey column json = ' ' :: flatStart column json := by
  unfold afterKey
  split
  · next item more => exact absurd (hflat.1 _ rfl) (List.cons_ne_nil item more)
  · next field more => exact absurd (hflat.2 _ rfl) (List.cons_ne_nil field more)
  · exact flatLine_eq column json

/-- Behind a space a value without lines of its own is read. -/
theorem readKeyed_space (node : Nat → Nat → Reader Json) (column : Nat) {line : List Char}
    (hline : StartsLine line) : readKeyed node column (' ' :: line) = readFlat column line := by
  have hahead : (' ' :: line).dropWhile (· == ' ') = line := hline.dropWhile_space
  simp only [readKeyed, hahead, hline.all_head?, Bool.false_eq_true, if_false]

theorem reads_of_isFlat (limit column : Nat) {json : Json} (hfree : json.NumberFree)
    (hflat : IsFlat json) : ReadsMarked limit column json ∧ ReadsKeyed limit column json := by
  constructor
  · intro rest hrest
    rw [afterMark_of_isFlat hflat]
    exact readMarked_flatStart limit column hfree hflat hrest
  · intro rest hrest
    have hline := (startsLine_flatStart column hfree hflat).append rest
    rw [afterKey_of_isFlat hflat, List.cons_append, readKeyed_space _ column hline]
    exact readFlat_flatStart column hfree hflat (hrest.imp fun _ _ h => h.1)

end Containers

mutual
/-- A value is read behind a mark and behind a key, if enough containers may be opened. -/
theorem reads : (json : Json) → json.NumberFree → ∀ limit column, json.depth ≤ limit →
    ReadsMarked limit column json ∧ ReadsKeyed limit column json
  | .array [], h, limit, column, _ =>
      reads_of_isFlat limit column h ⟨fun _ heq => (Json.array.inj heq).symm, nofun⟩
  | .object [], h, limit, column, _ =>
      reads_of_isFlat limit column h ⟨nofun, fun _ heq => (Json.object.inj heq).symm⟩
  | .null, h, limit, column, _ => reads_of_isFlat limit column h ⟨nofun, nofun⟩
  | .boolean _, h, limit, column, _ => reads_of_isFlat limit column h ⟨nofun, nofun⟩
  | .string _, h, limit, column, _ => reads_of_isFlat limit column h ⟨nofun, nofun⟩
  | .array (_ :: _), _, 0, _, hdepth => absurd hdepth (Nat.not_succ_le_zero _)
  | .object (_ :: _), _, 0, _, hdepth => absurd hdepth (Nat.not_succ_le_zero _)
  | .array (item :: more), h, limit + 1, column, hdepth => by
      have hne := List.cons_ne_nil item more
      have hbelow : itemsDepth (item :: more) ≤ limit := Nat.le_of_succ_le_succ hdepth
      have hitems := reads_items (item :: more) h
      -- Behind a key the items stand in the column of the key, and no node is opened for them.
      exact ⟨readsMarked_array hne (hitems limit (column + 2) hbelow),
        readsKeyed_array hne (hitems (limit + 1) column (Nat.le_succ_of_le hbelow))⟩
  | .object (field :: more), h, limit + 1, column, hdepth => by
      have hne := List.cons_ne_nil field more
      have hbelow : fieldsDepth (field :: more) ≤ limit := Nat.le_of_succ_le_succ hdepth
      have hfields := reads_fields (field :: more) h limit (column + 2) hbelow
      exact ⟨readsMarked_object hne (fun f hf => (hfields f hf).1) (fun f hf => (hfields f hf).2),
        readsKeyed_object hne (fun f hf => (hfields f hf).1) (fun f hf => (hfields f hf).2)⟩

theorem reads_items : (items : List Json) → ItemsNumberFree items → ∀ limit column,
    itemsDepth items ≤ limit → ∀ item ∈ items, ReadsMarked limit column item
  | [], _, _, _, _ => nofun
  | item :: more, h, limit, column, hdepth => by
      rw [itemsDepth, Nat.max_le] at hdepth
      rw [List.forall_mem_cons]
      exact ⟨(reads item h.1 limit column hdepth.1).1, reads_items more h.2 limit column hdepth.2⟩

theorem reads_fields : (fields : List (String × Json)) → FieldsNumberFree fields →
    ∀ limit column, fieldsDepth fields ≤ limit →
    ∀ field ∈ fields, ReadsMarked limit column field.2 ∧ ReadsKeyed limit column field.2
  | [], _, _, _, _ => nofun
  | (_, value) :: more, h, limit, column, hdepth => by
      rw [fieldsDepth, Nat.max_le] at hdepth
      rw [List.forall_mem_cons]
      exact ⟨reads value h.1 limit column hdepth.1, reads_fields more h.2 limit column hdepth.2⟩
end

theorem length_entryText (indent : Nat) (key : String) (value : Json) :
    (afterKey indent value).length < (entryText indent (key, value)).length ∨
      (afterMark indent value).length < (entryText indent (key, value)).length := by
  rw [entryText]
  split
  · left
    simp only [List.length_append, List.length_cons]
    omega
  · right
    simp only [List.length_append, List.length_cons]
    omega

mutual
/-- A text opens no more containers than it has characters. -/
theorem depth_le_length : (json : Json) → ∀ indent,
    json.depth ≤ (afterKey indent json).length ∧ json.depth ≤ (afterMark indent json).length
  | .null, _ => ⟨Nat.zero_le _, Nat.zero_le _⟩
  | .boolean _, _ => ⟨Nat.zero_le _, Nat.zero_le _⟩
  | .number _, _ => ⟨Nat.zero_le _, Nat.zero_le _⟩
  | .string _, _ => ⟨Nat.zero_le _, Nat.zero_le _⟩
  | .array [], _ => ⟨Nat.succ_pos _, Nat.succ_pos _⟩
  | .object [], _ => ⟨Nat.succ_pos _, Nat.succ_pos _⟩
  | .array (item :: more), indent =>
      ⟨Nat.succ_le_succ (itemsDepth_le_length (item :: more) indent false),
        Nat.succ_le_succ (itemsDepth_le_length (item :: more) (indent + 2) true)⟩
  | .object (field :: more), indent =>
      ⟨Nat.succ_le_succ (fieldsDepth_le_length (field :: more) (indent + 2) false),
        Nat.succ_le_succ (fieldsDepth_le_length (field :: more) (indent + 2) true)⟩

theorem itemsDepth_le_length : (items : List Json) → ∀ indent started,
    itemsDepth items ≤ (itemLines indent started items).length
  | [], _, _ => Nat.zero_le _
  | item :: more, indent, started => by
      have hitem := (depth_le_length item indent).2
      have hmore := itemsDepth_le_length more indent false
      rw [itemsDepth, itemLines, List.length_append, List.length_append, List.length_cons, Nat.max_le]
      omega

theorem fieldsDepth_le_length : (fields : List (String × Json)) → ∀ indent started,
    fieldsDepth fields ≤ (fieldLines indent started fields).length
  | [], _, _ => Nat.zero_le _
  | (key, value) :: more, indent, started => by
      have hvalue := depth_le_length value indent
      have hmore := fieldsDepth_le_length more indent false
      have hentry := length_entryText indent key value
      rw [fieldsDepth, fieldLines_eq, linesOf, ← fieldLines_eq, List.length_append, List.length_append,
        Nat.max_le]
      omega
end

/-- The text of a tree begins a line, and is read to its end. -/
theorem readNode_document {json : Json} (h : json.NumberFree) :
    StartsLine (document json) ∧
      readNode ((document json).length + 1) 0 0 (document json) = some (json, []) := by
  have hflat (hflat : IsFlat json) (hdocument : document json = flatStart 0 json) :
      StartsLine (document json) ∧
        readNode ((document json).length + 1) 0 0 (document json) = some (json, []) := by
    have hread := readNode_flatStart ((document json).length + 1) 0 0 h hflat .ended
    rw [List.append_nil] at hread
    rw [hdocument] at hread ⊢
    exact ⟨startsLine_flatStart 0 h hflat, hread⟩
  cases json with
  | null => exact hflat ⟨nofun, nofun⟩ rfl
  | boolean b => exact hflat ⟨nofun, nofun⟩ rfl
  | number n => exact absurd h id
  | string s => exact hflat ⟨nofun, nofun⟩ rfl
  | array items =>
      cases items with
      | nil => exact hflat ⟨fun _ heq => (Json.array.inj heq).symm, nofun⟩ rfl
      | cons item more =>
          have hne := List.cons_ne_nil item more
          have hdocument : document (.array (item :: more)) = itemLines 0 true (item :: more) := rfl
          have hitems := reads_items (item :: more) h _ 0 (itemsDepth_le_length (item :: more) 0 true)
          have hline := (startsLine_itemLines hne 0 []).1
          have hread := readNode_itemLines 0 hne hitems .ended
          rw [List.append_nil] at hline hread
          rw [hdocument]
          exact ⟨hline, hread⟩
  | object fields =>
      cases fields with
      | nil => exact hflat ⟨nofun, fun _ heq => (Json.object.inj heq).symm⟩ rfl
      | cons field more =>
          have hne := List.cons_ne_nil field more
          have hdocument : document (.object (field :: more)) = fieldLines 0 true (field :: more) := rfl
          have hfields := reads_fields (field :: more) h _ 0
            (fieldsDepth_le_length (field :: more) 0 true)
          have hline := (startsEntry_fieldLines hne 0 []).1
          have hread := readNode_fieldLines 0 hne (fun f hf => (hfields f hf).1)
            (fun f hf => (hfields f hf).2) .ended
          rw [List.append_nil] at hline hread
          rw [hdocument]
          exact ⟨hline, hread⟩

/-- Every tree without numbers is read back from its text. -/
theorem ofText_toYaml {json : Json} (h : json.NumberFree) : ofText json.toYaml = some json := by
  obtain ⟨hline, hread⟩ := readNode_document h
  have hprintable : (document json).all isPrintable = true :=
    List.all_eq_true.mpr (printable_document h)
  have hnext : nextLine (document json) = some (0, document json) := hline.nextLine_spaces 0
  have hend : nextLine [] = none := rfl
  rw [ofText, Json.toYaml, String.toList_ofList]
  simp only [hprintable, if_true, hnext, Option.bind_eq_bind, Option.bind_some, hread, hend,
    Option.isNone_none]

example : ofText "a:  []\nb:\n    - 12\n    - ''\n" =
    some (.object [("a", .array []), ("b", .array [.number (.integer 12), .string ""])]) := by
  rfl

end SwaggerGen.Yaml
