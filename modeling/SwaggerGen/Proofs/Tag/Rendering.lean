import SwaggerGen.Proofs.Tag.Entry
import SwaggerGen.Proofs.Text.Replace
import SwaggerGen.Proofs.Text.Trim

/-!
# Rendered tags

A tag whose parts can stand between quotes, commas and equals signs is read back from its rendering,
whatever follows it. Every tag that is read from a text is such a tag, so that rendering what was read
and reading it again changes nothing.
-/

namespace SwaggerGen

namespace Text

theorem splitOn_eq_pair_iff (sep : Char) (s left right : List Char) :
    s.splitOn sep = [left, right] ↔ s = left ++ sep :: right ∧ sep ∉ left ∧ sep ∉ right := by
  constructor
  · intro h
    have hjoined : [sep].intercalate (s.splitOn sep) = s := List.intercalate_splitOn sep
    rw [h, List.intercalate_cons_cons, List.intercalate_singleton] at hjoined
    refine ⟨by simpa using hjoined.symm, ?_, ?_⟩
    · exact not_mem_of_mem_splitOn (h ▸ List.mem_cons_self)
    · exact not_mem_of_mem_splitOn (h ▸ List.mem_cons_of_mem _ List.mem_cons_self)
  · rintro ⟨rfl, hleft, hright⟩
    rw [List.splitOn_append_cons_self_of_not_mem hleft, List.splitOn_eq_singleton hright]

theorem exists_splitOn_eq_pair_iff (sep : Char) (s : List Char) :
    (∃ left right, s.splitOn sep = [left, right]) ↔ s.count sep = 1 := by
  simp only [splitOn_eq_pair_iff]
  constructor
  · rintro ⟨left, right, rfl, hleft, hright⟩
    simp [List.count_eq_zero_of_not_mem hleft, List.count_eq_zero_of_not_mem hright]
  · intro h
    obtain ⟨left, right, rfl, hleft⟩ :=
      List.eq_append_cons_of_mem (List.count_pos_iff.mp (h ▸ Nat.one_pos))
    refine ⟨left, right, rfl, hleft, ?_⟩
    rw [List.count_append, List.count_eq_zero_of_not_mem hleft, List.count_cons_self] at h
    exact List.count_eq_zero.mp (by omega)

theorem mem_intercalate {sep c : Char} {parts : List (List Char)}
    (h : c ∈ [sep].intercalate parts) : c = sep ∨ ∃ part ∈ parts, c ∈ part := by
  induction parts with
  | nil => simp at h
  | cons part rest ih =>
      cases rest with
      | nil =>
          rw [List.intercalate_singleton] at h
          exact .inr ⟨part, List.mem_cons_self, h⟩
      | cons next others =>
          rw [List.intercalate_cons_cons, List.mem_append, List.mem_append, List.mem_singleton] at h
          rcases h with (h | h) | h
          · exact .inr ⟨part, List.mem_cons_self, h⟩
          · exact .inl h
          · rcases ih h with h | ⟨other, hmem, h⟩
            · exact .inl h
            · exact .inr ⟨other, List.mem_cons_of_mem _ hmem, h⟩

end Text

/-- Whether a text can stand between the commas of a tag body as it is. -/
structure IsTagPiece (piece : List Char) : Prop where
  trimmed : Text.Trimmed piece
  comma_not_mem : ',' ∉ piece
  quote_not_mem : '"' ∉ piece

instance (piece : List Char) : Decidable (IsTagPiece piece) :=
  decidable_of_iff (Text.Trimmed piece ∧ ',' ∉ piece ∧ '"' ∉ piece)
    ⟨fun ⟨htrimmed, hcomma, hquote⟩ => ⟨htrimmed, hcomma, hquote⟩,
      fun h => ⟨h.trimmed, h.comma_not_mem, h.quote_not_mem⟩⟩

theorem isTagPiece_nil : IsTagPiece [] := ⟨⟨nofun, nofun⟩, nofun, nofun⟩

namespace TagOption

/-- Whether the option has exactly one equals sign if it is a pair, and not exactly one if it is a
flag. -/
def EqualsApart : TagOption → Prop
  | flag text => text.toList.count '=' ≠ 1
  | pair key value => '=' ∉ key.toList ∧ '=' ∉ value.toList

/-- Whether the option is one that a tag can be written with. -/
structure WellFormed (option : TagOption) : Prop where
  piece : IsTagPiece option.text
  text_ne_nil : option.text ≠ []
  equalsApart : option.EqualsApart

instance : (option : TagOption) → Decidable option.EqualsApart
  | flag text => inferInstanceAs (Decidable (text.toList.count '=' ≠ 1))
  | pair key value => inferInstanceAs (Decidable ('=' ∉ key.toList ∧ '=' ∉ value.toList))

instance (option : TagOption) : Decidable option.WellFormed :=
  decidable_of_iff (IsTagPiece option.text ∧ option.text ≠ [] ∧ option.EqualsApart)
    ⟨fun ⟨hpiece, hne, hequals⟩ => ⟨hpiece, hne, hequals⟩,
      fun h => ⟨h.piece, h.text_ne_nil, h.equalsApart⟩⟩

theorem equalsApart_ofText (s : List Char) : (ofText s).EqualsApart := by
  unfold ofText
  split
  · next key value hsplit =>
      obtain ⟨-, hkey, hvalue⟩ := (Text.splitOn_eq_pair_iff _ _ _ _).mp hsplit
      exact ⟨by simpa using hkey, by simpa using hvalue⟩
  · next hsplit =>
      intro hcount
      rw [String.toList_ofList, ← Text.exists_splitOn_eq_pair_iff] at hcount
      obtain ⟨key, value, hpair⟩ := hcount
      exact hsplit key value hpair

theorem EqualsApart.ofText_text {option : TagOption} (h : option.EqualsApart) :
    ofText option.text = option := by
  cases option with
  | flag text =>
      rw [TagOption.text, ofText]
      split
      · next key value hsplit =>
          exact absurd ((Text.exists_splitOn_eq_pair_iff _ _).mp ⟨key, value, hsplit⟩) h
      · rw [String.ofList_toList]
  | pair key value =>
      have hsplit := (Text.splitOn_eq_pair_iff '=' (pair key value).text _ _).mpr ⟨rfl, h⟩
      rw [ofText, hsplit]
      simp only [String.ofList_toList]

theorem wellFormed_ofText {s : List Char} (hpiece : IsTagPiece s) (hne : s ≠ []) :
    (ofText s).WellFormed where
  piece := by rwa [text_ofText]
  text_ne_nil := by rwa [text_ofText]
  equalsApart := equalsApart_ofText s

end TagOption

namespace Tag

/-- Whether a tag is one that can be written. -/
structure WellFormed (tag : Tag) : Prop where
  key : IsTagKey tag.key.toList
  name : IsTagPiece tag.name.toList
  option : ∀ option ∈ tag.options, option.WellFormed

instance (tag : Tag) : Decidable tag.WellFormed :=
  decidable_of_iff (IsTagKey tag.key.toList ∧ IsTagPiece tag.name.toList ∧
      ∀ option ∈ tag.options, option.WellFormed)
    ⟨fun ⟨hkey, hname, hoptions⟩ => ⟨hkey, hname, hoptions⟩, fun h => ⟨h.key, h.name, h.option⟩⟩

def entry (tag : Tag) : TagEntry := ⟨tag.key.toList, tag.body⟩

/-- A tag as it is written: the key, and in quotes the name and the options with commas between. -/
def render (tag : Tag) : String := String.ofList tag.entry.text

/-- Tags as they are written, with spaces between them. -/
def renderAll (tags : List Tag) : String := " ".intercalate (tags.map render)

theorem isTagPiece_of_mem_pieces {body piece : List Char} (hbody : '"' ∉ body)
    (h : piece ∈ pieces body) : IsTagPiece piece := by
  obtain ⟨part, hpart, rfl⟩ := List.mem_map.mp h
  refine ⟨Text.trimmed_trim part, ?_, ?_⟩
  · intro hmem
    exact Text.not_mem_of_mem_splitOn hpart (Text.mem_of_mem_trim hmem)
  · intro hmem
    have hjoined : part <:+: [','].intercalate (body.splitOn ',') :=
      Text.infix_intercalate [','] hpart
    rw [List.intercalate_splitOn] at hjoined
    exact hbody (hjoined.subset (Text.mem_of_mem_trim hmem))

theorem wellFormed_ofBody {key : String} {body : List Char} (hkey : IsTagKey key.toList)
    (hbody : '"' ∉ body) : (ofBody key body).WellFormed where
  key := hkey
  name := by
    rw [ofBody, String.toList_ofList]
    cases hpieces : pieces body with
    | nil => exact isTagPiece_nil
    | cons name rest =>
        apply isTagPiece_of_mem_pieces hbody
        rw [hpieces]
        exact List.mem_cons_self
  option := by
    intro option hoption
    obtain ⟨piece, hpiece, rfl⟩ := List.mem_map.mp hoption
    obtain ⟨htail, hne⟩ := List.mem_filter.mp hpiece
    apply TagOption.wellFormed_ofText
    · exact isTagPiece_of_mem_pieces hbody (List.mem_of_mem_tail htail)
    · simpa using hne

namespace WellFormed

variable {tag : Tag}

theorem isTagPiece (h : tag.WellFormed) :
    ∀ piece ∈ tag.name.toList :: tag.options.map TagOption.text, IsTagPiece piece := by
  intro piece hpiece
  rcases List.mem_cons.mp hpiece with rfl | hpiece
  · exact h.name
  · obtain ⟨option, hoption, rfl⟩ := List.mem_map.mp hpiece
    exact (h.option option hoption).piece

theorem legal_entry (h : tag.WellFormed) : tag.entry.Legal where
  key := h.key
  quote_not_mem := by
    intro hmem
    rcases Text.mem_intercalate hmem with hcomma | ⟨piece, hpiece, hmem⟩
    · exact absurd hcomma (by decide)
    · exact (h.isTagPiece piece hpiece).quote_not_mem hmem

theorem pieces_body (h : tag.WellFormed) :
    pieces tag.body = tag.name.toList :: tag.options.map TagOption.text := by
  rw [pieces, body, List.splitOn_intercalate]
  · refine (List.map_congr_left fun piece hpiece => ?_).trans (List.map_id _)
    exact (h.isTagPiece piece hpiece).trimmed.trim_eq_self
  · exact fun piece hpiece => (h.isTagPiece piece hpiece).comma_not_mem
  · exact List.cons_ne_nil _ _

theorem ofBody_body (h : tag.WellFormed) : ofBody tag.key tag.body = tag := by
  have hkept : (tag.options.map TagOption.text).filter (· ≠ []) = tag.options.map TagOption.text := by
    rw [List.filter_eq_self]
    intro piece hpiece
    obtain ⟨option, hoption, rfl⟩ := List.mem_map.mp hpiece
    simpa using (h.option option hoption).text_ne_nil
  have hoptions : (tag.options.map TagOption.text).map TagOption.ofText = tag.options := by
    rw [List.map_map]
    refine (List.map_congr_left fun option hoption => ?_).trans (List.map_id _)
    exact (h.option option hoption).equalsApart.ofText_text
  rw [ofBody, h.pieces_body, List.tail_cons, hkept, hoptions, List.headD_cons, String.ofList_toList]

theorem ofText_render_append (h : tag.WellFormed) (rest : String) :
    ofText (tag.render ++ rest) = tag :: ofText rest := by
  have htag : tag.entry.tag = tag := by
    rw [TagEntry.tag, entry, String.ofList_toList, h.ofBody_body]
  rw [ofText, render, String.toList_append, String.toList_ofList,
    TagEntry.scan_text_append h.legal_entry, List.map_cons, htag, ofText]

end WellFormed

/-- A character that begins no key may stand before the tags. -/
theorem ofText_append_of_not_isTagKeyChar {c : Char} (h : isTagKeyChar c = false) (rest : String) :
    ofText (c.toString ++ rest) = ofText rest := by
  rw [ofText, String.toList_append, Char.toString, String.toList_singleton, List.singleton_append,
    TagEntry.scan_cons_of_not_isTagKeyChar h, ofText]

theorem ofText_renderAll_append {tags : List Tag} (h : ∀ tag ∈ tags, tag.WellFormed) (rest : String) :
    ofText (renderAll tags ++ rest) = tags ++ ofText rest := by
  induction tags with
  | nil => rw [renderAll, List.map_nil, String.intercalate_nil, String.empty_append, List.nil_append]
  | cons tag others ih =>
      have htag := h tag List.mem_cons_self
      have ih := ih fun other hother => h other (List.mem_cons_of_mem _ hother)
      cases others with
      | nil =>
          rw [renderAll, List.map_singleton, String.intercalate_singleton, htag.ofText_render_append,
            List.singleton_append]
      | cons next more =>
          have hspace : renderAll (tag :: next :: more) ++ rest =
              tag.render ++ (' '.toString ++ (renderAll (next :: more) ++ rest)) := by
            rw [renderAll, List.map_cons, List.map_cons, String.intercalate_cons_cons, renderAll,
              List.map_cons, String.append_assoc, String.append_assoc]
            rfl
          rw [hspace, htag.ofText_render_append, ofText_append_of_not_isTagKeyChar (by decide), ih,
            ← List.cons_append]

theorem wellFormed_of_mem_ofText {raw : String} {tag : Tag} (h : tag ∈ ofText raw) :
    tag.WellFormed := by
  obtain ⟨entry, hentry, rfl⟩ := List.mem_map.mp h
  have hlegal := TagEntry.legal_of_mem_scan hentry
  exact wellFormed_ofBody (by simpa using hlegal.key) hlegal.quote_not_mem

theorem ofText_renderAll {tags : List Tag} (h : ∀ tag ∈ tags, tag.WellFormed) :
    ofText (renderAll tags) = tags := by
  have hnone : ofText "" = [] := rfl
  have hread := ofText_renderAll_append h ""
  rwa [String.append_empty, hnone, List.append_nil] at hread

theorem ofText_backquoted_renderAll {tags : List Tag} (h : ∀ tag ∈ tags, tag.WellFormed) :
    ofText ("`" ++ renderAll tags ++ "`") = tags := by
  have hclose : ofText "`" = [] := by decide
  have hopen := ofText_append_of_not_isTagKeyChar (c := '`') (by decide) (renderAll tags ++ "`")
  rw [String.append_assoc]
  refine hopen.trans ?_
  rw [ofText_renderAll_append h, hclose, List.append_nil]

/-- A tag that can be written is read from its rendering whatever follows it, and tags are read from
their renderings with spaces between them, in back quotes or without. What is read from any text can be
written, so it is read again from its renderings. -/
theorem ofText_inverts_render :
    (∀ tag : Tag, tag.WellFormed → ∀ rest : String,
      ofText (tag.render ++ rest) = tag :: ofText rest) ∧
    (∀ tags : List Tag, (∀ tag ∈ tags, tag.WellFormed) →
      ofText (renderAll tags) = tags ∧ ofText ("`" ++ renderAll tags ++ "`") = tags) ∧
    ∀ raw : String, (∀ tag ∈ ofText raw, tag.WellFormed) ∧
      ofText (renderAll (ofText raw)) = ofText raw ∧
      ofText ("`" ++ renderAll (ofText raw) ++ "`") = ofText raw := by
  refine ⟨fun tag h => h.ofText_render_append, fun tags h => ?_, fun raw => ?_⟩
  · exact ⟨ofText_renderAll h, ofText_backquoted_renderAll h⟩
  · have hread : ∀ tag ∈ ofText raw, tag.WellFormed := fun tag h => wellFormed_of_mem_ofText h
    exact ⟨hread, ofText_renderAll hread, ofText_backquoted_renderAll hread⟩

/-- A tag without a name, with a blank inside of a pair and with a flag of two equals signs. -/
def size : Tag := ⟨"_Size9", "", [.pair "default " "a b", .flag "x==y", .flag "optional"]⟩

theorem ofText_render_size :
    size.WellFormed ∧ ofText (size.render ++ "json:\"id json:\"") =
      [size, ⟨"json", "id json:", []⟩] ∧
    ofText "`_Size9:\",default =a b,x==y,optional\" _Size9:\",default =a b,x==y,optional\"`" =
      [size, size] := by
  have hsize : size.WellFormed := by decide
  obtain ⟨hone, hall, -⟩ := ofText_inverts_render
  refine ⟨hsize, ?_, ?_⟩
  · rw [hone size hsize]
    decide
  · exact (hall [size, size] (by simpa using hsize)).2

end Tag

end SwaggerGen
