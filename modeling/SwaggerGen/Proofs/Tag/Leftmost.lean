import Mathlib.Data.Nat.Find
import Mathlib.Order.Bounds.Basic
import SwaggerGen.Proofs.Tag.Entry

/-!
# Leftmost cuts

A text is cut into entries, with a gap before each entry and a rest behind the last one. In the
leftmost cut each entry begins at the first position, from the end of the entry before it on, at which
an entry can be read, and none can be read in the rest. Every text has exactly one such cut, and its
entries are those that the search finds.
-/

namespace SwaggerGen

namespace TagEntry

/-- Whether an entry can be read at a position of a text. -/
def ReadableAt (s : List Char) (position : Nat) : Prop :=
  ∃ entry : TagEntry, entry.Legal ∧ entry.text <+: s.drop position

instance (s : List Char) : DecidablePred (ReadableAt s) := fun position =>
  decidable_of_iff ((ofHead? (s.drop position)).isSome) <| by
    rw [Option.isSome_iff_exists]
    exact exists_congr fun entry => ofHead?_eq_some_iff _ entry

instance (entry : TagEntry) : Decidable entry.Legal :=
  decidable_of_iff (IsTagKey entry.key ∧ '"' ∉ entry.body)
    ⟨fun h => ⟨h.1, h.2⟩, fun h => ⟨h.key, h.quote_not_mem⟩⟩

theorem readableAt_append (s t : List Char) (position : Nat) :
    ReadableAt (s ++ t) (s.length + position) ↔ ReadableAt t position := by
  rw [ReadableAt, ReadableAt, List.drop_append, List.drop_eq_nil_of_le (by omega), List.nil_append,
    Nat.add_sub_cancel_left]

theorem readableAt_gap {entry : TagEntry} (h : entry.Legal) (gap rest : List Char) :
    ReadableAt (gap ++ (entry.text ++ rest)) gap.length := by
  refine ⟨entry, h, ?_⟩
  rw [List.drop_left]
  exact List.prefix_append _ _

/-- What can be read at a position of a text can be read there whatever follows the text. -/
theorem ReadableAt.append {s : List Char} {position : Nat} (h : ReadableAt s position)
    (t : List Char) : ReadableAt (s ++ t) position := by
  obtain ⟨entry, hlegal, hprefix⟩ := h
  refine ⟨entry, hlegal, hprefix.trans ?_⟩
  rw [List.drop_append]
  exact List.prefix_append _ _

/-- Whether an entry begins in front of another one depends only on the key of that one. -/
theorem readableAt_append_text_iff {gap : List Char} {position : Nat} (h : position < gap.length)
    (entry : TagEntry) (rest : List Char) :
    ReadableAt (gap ++ (entry.text ++ rest)) position ↔
      ReadableAt (gap ++ text ⟨entry.key, []⟩) position := by
  have hdrop : ∀ s : List Char, (gap ++ s).drop position = gap.drop position ++ s := by
    intro s
    rw [List.drop_append_of_le_length (Nat.le_of_lt h)]
  have hlong : gap.drop position ++ (entry.text ++ rest) =
      (gap.drop position ++ entry.key) ++ ':' :: '"' :: (entry.body ++ '"' :: rest) := by
    rw [text_append, List.append_assoc]
  have hshort : gap.drop position ++ text ⟨entry.key, []⟩ =
      (gap.drop position ++ entry.key) ++ ':' :: '"' :: ['"'] := by
    rw [text, List.append_assoc, List.append_assoc]
    rfl
  rw [ReadableAt, ReadableAt, hdrop, hdrop, hlong, hshort, exists_prefix_iff_opens (by simp),
    exists_prefix_iff_opens (by simp)]

theorem scan_append_of_not_readableAt {gap rest : List Char}
    (h : ∀ position < gap.length, ¬ ReadableAt (gap ++ rest) position) :
    scan (gap ++ rest) = scan rest := by
  induction gap with
  | nil => rfl
  | cons c gap ih =>
      have hfirst : ¬ ReadableAt (c :: (gap ++ rest)) 0 := h 0 (by simp)
      rw [List.cons_append, scan_cons_of_not_begins hfirst]
      apply ih
      intro position hposition hreadable
      apply h (position + 1) (by simpa using hposition)
      simpa [ReadableAt] using hreadable

end TagEntry

/-- Whether no entry begins in a gap in front of an entry with the given key. -/
def TagEntry.IsGap (gap key : List Char) : Prop :=
  ∀ position < gap.length, ¬ ReadableAt (gap ++ text ⟨key, []⟩) position

instance (gap key : List Char) : Decidable (TagEntry.IsGap gap key) :=
  inferInstanceAs (Decidable (∀ position < gap.length, ¬ _))

/-- A text cut into entries, each behind a gap, and the rest. -/
structure TagCut where
  found : List (List Char × TagEntry)
  rest : List Char

namespace TagCut

open TagEntry

/-- The text of entries with the gaps before them. -/
def foundText (found : List (List Char × TagEntry)) : List Char :=
  found.flatMap fun (gap, entry) => gap ++ entry.text

/-- The tags that the entries stand for, each from its key and from what is between its quotes. -/
def tagsOf (found : List (List Char × TagEntry)) : List Tag :=
  found.map fun (_, entry) => Tag.ofBody (String.ofList entry.key) entry.body

@[simp] theorem foundText_nil : foundText [] = [] := rfl

@[simp] theorem foundText_cons (gap : List Char) (entry : TagEntry)
    (found : List (List Char × TagEntry)) :
    foundText ((gap, entry) :: found) = gap ++ entry.text ++ foundText found := rfl

@[simp] theorem foundText_append (before after : List (List Char × TagEntry)) :
    foundText (before ++ after) = foundText before ++ foundText after :=
  List.flatMap_append

/-- Whether a cut is one of a text in which every entry comes as early as it can. -/
structure Leftmost (cut : TagCut) (s : List Char) : Prop where
  text_eq : foundText cut.found ++ cut.rest = s
  legal : ∀ piece ∈ cut.found, piece.2.Legal
  isLeast : ∀ before gap entry after, cut.found = before ++ (gap, entry) :: after →
    IsLeast {position | (foundText before).length ≤ position ∧ ReadableAt s position}
      ((foundText before).length + gap.length)
  not_readableAt : ∀ position, (foundText cut.found).length ≤ position → ¬ ReadableAt s position

theorem leftmost_nil_iff (rest s : List Char) :
    Leftmost ⟨[], rest⟩ s ↔ rest = s ∧ ∀ position, ¬ ReadableAt s position := by
  constructor
  · intro h
    exact ⟨h.text_eq, fun position => h.not_readableAt position (Nat.zero_le _)⟩
  · rintro ⟨rfl, hnone⟩
    exact ⟨rfl, by simp, by simp, fun position _ => hnone position⟩

theorem isLeast_readableAt_append (s t : List Char) (start position : Nat) :
    IsLeast {p | s.length + start ≤ p ∧ ReadableAt (s ++ t) p} (s.length + position) ↔
      IsLeast {p | start ≤ p ∧ ReadableAt t p} position := by
  constructor
  · rintro ⟨⟨hstart, hreadable⟩, hlower⟩
    rw [readableAt_append] at hreadable
    refine ⟨⟨Nat.le_of_add_le_add_left hstart, hreadable⟩, ?_⟩
    rintro p ⟨hp, hreadable⟩
    have hle : s.length + position ≤ s.length + p := by
      apply hlower
      exact ⟨Nat.add_le_add_left hp _, (readableAt_append s t p).mpr hreadable⟩
    exact Nat.le_of_add_le_add_left hle
  · rintro ⟨⟨hstart, hreadable⟩, hlower⟩
    refine ⟨⟨Nat.add_le_add_left hstart _, (readableAt_append s t position).mpr hreadable⟩, ?_⟩
    rintro p ⟨hp, hreadable⟩
    obtain ⟨q, rfl⟩ := Nat.exists_eq_add_of_le (Nat.le_trans (Nat.le_add_right _ _) hp)
    rw [readableAt_append] at hreadable
    have hle : position ≤ q := by
      apply hlower
      exact ⟨Nat.le_of_add_le_add_left hp, hreadable⟩
    exact Nat.add_le_add_left hle _

section Cons

variable {gap : List Char} {entry : TagEntry} {more : List (List Char × TagEntry)}
  {rest s t : List Char}

theorem Leftmost.not_readableAt_gap (h : Leftmost ⟨(gap, entry) :: more, rest⟩ s) :
    ∀ position < gap.length, ¬ ReadableAt s position := by
  intro position hposition hreadable
  have hle := (h.isLeast [] gap entry more rfl).2 ⟨Nat.zero_le position, hreadable⟩
  rw [foundText_nil, List.length_nil, Nat.zero_add] at hle
  omega

theorem Leftmost.tail (h : Leftmost ⟨(gap, entry) :: more, rest⟩ s) :
    Leftmost ⟨more, rest⟩ (foundText more ++ rest) := by
  obtain ⟨htext, hlegal, hleast, hnone⟩ := h
  rw [foundText_cons, List.append_assoc] at htext
  refine ⟨rfl, ?_, ?_, ?_⟩
  · intro piece hpiece
    exact hlegal piece (List.mem_cons_of_mem _ hpiece)
  · rintro before gap' entry' after rfl
    have hbehind := hleast ((gap, entry) :: before) gap' entry' after rfl
    rw [foundText_cons, List.length_append, Nat.add_assoc, ← htext] at hbehind
    exact (isLeast_readableAt_append _ _ _ _).mp hbehind
  · intro position hposition hreadable
    apply hnone ((gap ++ entry.text).length + position)
    · rw [foundText_cons, List.length_append]
      exact Nat.add_le_add_left hposition _
    · rw [← htext]
      exact (readableAt_append _ _ _).mpr hreadable

theorem Leftmost.cons (h : Leftmost ⟨more, rest⟩ t) (hentry : entry.Legal)
    (hgap : ∀ position < gap.length, ¬ ReadableAt (gap ++ entry.text ++ t) position) :
    Leftmost ⟨(gap, entry) :: more, rest⟩ (gap ++ entry.text ++ t) := by
  obtain ⟨rfl, hlegal, hleast, hnone⟩ := h
  refine ⟨?_, ?_, ?_, ?_⟩
  · rw [foundText_cons, List.append_assoc]
  · intro piece hpiece
    rcases List.mem_cons.mp hpiece with rfl | hpiece
    · exact hentry
    · exact hlegal piece hpiece
  · intro before gap' entry' after hfound
    cases before with
    | nil =>
        cases hfound
        refine ⟨⟨Nat.zero_le _, ?_⟩, ?_⟩
        · rw [foundText_nil, List.length_nil, Nat.zero_add, List.append_assoc]
          exact readableAt_gap hentry gap _
        · intro position hposition
          rw [foundText_nil, List.length_nil, Nat.zero_add]
          by_contra hlt
          exact hgap position (Nat.not_le.mp hlt) hposition.2
    | cons first before =>
        cases hfound
        rw [foundText_cons, List.length_append, Nat.add_assoc]
        exact (isLeast_readableAt_append _ _ _ _).mpr (hleast before gap' entry' after rfl)
  · intro position hposition hreadable
    rw [foundText_cons, List.length_append] at hposition
    obtain ⟨p, rfl⟩ := Nat.exists_eq_add_of_le (Nat.le_trans (Nat.le_add_right _ _) hposition)
    rw [readableAt_append] at hreadable
    exact hnone p (Nat.le_of_add_le_add_left hposition) hreadable

/-- A leftmost cut begins with an entry, nothing before it, and a leftmost cut of what follows. -/
theorem leftmost_cons_iff :
    Leftmost ⟨(gap, entry) :: more, rest⟩ s ↔
      ∃ t, gap ++ entry.text ++ t = s ∧ entry.Legal ∧
        (∀ position < gap.length, ¬ ReadableAt s position) ∧ Leftmost ⟨more, rest⟩ t := by
  constructor
  · intro h
    refine ⟨foundText more ++ rest, ?_, h.legal _ List.mem_cons_self, h.not_readableAt_gap, h.tail⟩
    rw [← h.text_eq, foundText_cons, List.append_assoc (gap ++ entry.text)]
  · rintro ⟨t, rfl, hentry, hgap, h⟩
    exact h.cons hentry hgap

end Cons

/-- A cut is leftmost if each gap fits in front of the key of its entry, and nothing is in the rest. -/
theorem leftmost_iff (found : List (List Char × TagEntry)) (rest s : List Char) :
    Leftmost ⟨found, rest⟩ s ↔
      foundText found ++ rest = s ∧
        (∀ piece ∈ found, piece.2.Legal ∧ IsGap piece.1 piece.2.key) ∧
          ∀ position, ¬ ReadableAt rest position := by
  induction found generalizing s with
  | nil =>
      rw [leftmost_nil_iff]
      constructor
      · rintro ⟨rfl, hnone⟩
        exact ⟨rfl, by simp, hnone⟩
      · rintro ⟨rfl, -, hnone⟩
        exact ⟨rfl, hnone⟩
  | cons piece more ih =>
      obtain ⟨gap, entry⟩ := piece
      rw [leftmost_cons_iff, List.forall_mem_cons, foundText_cons]
      have hgap : ∀ t,
          (∀ position < gap.length, ¬ ReadableAt (gap ++ entry.text ++ t) position) ↔
            IsGap gap entry.key := by
        intro t
        apply forall₂_congr
        intro position hposition
        rw [List.append_assoc, readableAt_append_text_iff hposition]
      constructor
      · rintro ⟨t, rfl, hlegal, hpositions, ht⟩
        obtain ⟨rfl, hmore, hnone⟩ := (ih t).mp ht
        exact ⟨List.append_assoc _ _ _, ⟨⟨hlegal, (hgap _).mp hpositions⟩, hmore⟩, hnone⟩
      · rintro ⟨rfl, ⟨⟨hlegal, hfits⟩, hmore⟩, hnone⟩
        refine ⟨foundText more ++ rest, (List.append_assoc _ _ _).symm, hlegal, ?_, ?_⟩
        · rw [List.append_assoc]
          exact (hgap _).mpr hfits
        · exact (ih _).mpr ⟨rfl, hmore, hnone⟩

theorem Leftmost.scan_eq {cut : TagCut} {s : List Char} (h : cut.Leftmost s) :
    scan s = cut.found.map Prod.snd := by
  obtain ⟨found, rest⟩ := cut
  induction found generalizing s with
  | nil =>
      obtain ⟨-, hnone⟩ := (leftmost_nil_iff rest s).mp h
      have hgap : ∀ position < s.length, ¬ ReadableAt (s ++ []) position := by
        intro position _
        rw [List.append_nil]
        exact hnone position
      have hscan := scan_append_of_not_readableAt hgap
      rwa [List.append_nil] at hscan
  | cons piece more ih =>
      obtain ⟨gap, entry⟩ := piece
      obtain ⟨t, rfl, hlegal, hgap, ht⟩ := leftmost_cons_iff.mp h
      rw [List.append_assoc] at hgap ⊢
      rw [scan_append_of_not_readableAt hgap, scan_text_append hlegal, ih ht, List.map_cons]

theorem exists_leftmost (s : List Char) : ∃ cut : TagCut, cut.Leftmost s := by
  induction hlength : s.length using Nat.strong_induction_on generalizing s with
  | _ length ih =>
      by_cases hsome : ∃ position, ReadableAt s position
      · -- cuts off the entry at the first position that has one
        obtain ⟨entry, hlegal, t, ht⟩ := Nat.find_spec hsome
        have hs : s.take (Nat.find hsome) ++ entry.text ++ t = s := by
          rw [List.append_assoc, ht, List.take_append_drop]
        have hshort : t.length < length := by
          have hne : 0 < entry.text.length := by
            rw [text, List.length_append, List.length_singleton]
            omega
          rw [← hs, List.length_append, List.length_append] at hlength
          omega
        obtain ⟨⟨found, rest⟩, hcut⟩ := ih t.length hshort t rfl
        refine ⟨⟨(s.take (Nat.find hsome), entry) :: found, rest⟩, ?_⟩
        rw [leftmost_cons_iff]
        refine ⟨t, hs, hlegal, ?_, hcut⟩
        intro position hposition
        apply Nat.find_min hsome
        rw [List.length_take] at hposition
        omega
      · exact ⟨⟨[], s⟩, (leftmost_nil_iff s s).mpr ⟨rfl, not_exists.mp hsome⟩⟩

theorem Leftmost.unique {cut other : TagCut} {s : List Char} (h : cut.Leftmost s)
    (hother : other.Leftmost s) : other = cut := by
  -- both cuts have the entries that the search finds, and each gap ends where its entry first can
  have hentries := h.scan_eq.symm.trans hother.scan_eq
  obtain ⟨found, rest⟩ := cut
  obtain ⟨found', rest'⟩ := other
  induction found generalizing found' s with
  | nil =>
      obtain rfl := List.map_eq_nil_iff.mp hentries.symm
      rw [((leftmost_nil_iff _ _).mp h).1, ((leftmost_nil_iff _ _).mp hother).1]
  | cons piece more ih =>
      cases found' with
      | nil => cases hentries
      | cons piece' more' =>
          obtain ⟨gap, entry⟩ := piece
          obtain ⟨gap', entry'⟩ := piece'
          obtain ⟨hentry, hmore⟩ := List.cons.inj hentries
          obtain rfl : entry = entry' := hentry
          have hgap : gap.length = gap'.length := by
            have hleast := h.isLeast [] gap entry more rfl
            simpa using hleast.unique (hother.isLeast [] gap' entry more' rfl)
          obtain ⟨t, rfl, -, -, ht⟩ := leftmost_cons_iff.mp h
          obtain ⟨t', heq, -, -, ht'⟩ := leftmost_cons_iff.mp hother
          rw [List.append_assoc, List.append_assoc] at heq
          obtain ⟨rfl, hbehind⟩ := List.append_inj heq hgap.symm
          obtain rfl := List.append_cancel_left hbehind
          cases ih ht more' ht' hmore
          rfl

theorem forall_not_readableAt_iff (s : List Char) :
    (∀ position, ¬ ReadableAt s position) ↔ scan s = [] := by
  constructor
  · intro hnone
    exact ((leftmost_nil_iff s s).mpr ⟨rfl, hnone⟩).scan_eq
  · intro hscan
    obtain ⟨⟨found, rest⟩, hcut⟩ := exists_leftmost s
    have hfound : found = [] := List.map_eq_nil_iff.mp (hcut.scan_eq.symm.trans hscan)
    subst hfound
    exact ((leftmost_nil_iff rest s).mp hcut).2

instance (cut : TagCut) (s : List Char) : Decidable (cut.Leftmost s) :=
  have : Decidable (∀ position, ¬ ReadableAt cut.rest position) :=
    decidable_of_iff _ (forall_not_readableAt_iff cut.rest).symm
  have : Decidable (∀ piece ∈ cut.found, piece.2.Legal ∧ IsGap piece.1 piece.2.key) :=
    List.decidableBAll _ cut.found
  decidable_of_iff _ (leftmost_iff cut.found cut.rest s).symm

theorem Leftmost.ofText_eq {cut : TagCut} {s : List Char} (h : cut.Leftmost s) :
    Tag.ofText (String.ofList s) = tagsOf cut.found := by
  rw [Tag.ofText, String.toList_ofList, h.scan_eq, List.map_map]
  rfl

/-- What is between the quotes of an entry has no part in the rest of the cut. -/
theorem Leftmost.replaceBody {before after : List (List Char × TagEntry)}
    {gap rest s body : List Char} {entry : TagEntry}
    (h : Leftmost ⟨before ++ (gap, entry) :: after, rest⟩ s) (hbody : '"' ∉ body) :
    Leftmost ⟨before ++ (gap, ⟨entry.key, body⟩) :: after, rest⟩
      (foundText before ++ gap ++ text ⟨entry.key, body⟩ ++ foundText after ++ rest) := by
  rw [leftmost_iff] at h ⊢
  obtain ⟨-, hpieces, hnone⟩ := h
  rw [List.forall_mem_append, List.forall_mem_cons] at hpieces ⊢
  obtain ⟨hbefore, ⟨hlegal, hgap⟩, hafter⟩ := hpieces
  refine ⟨?_, ⟨hbefore, ⟨⟨hlegal.key, hbody⟩, hgap⟩, hafter⟩, hnone⟩
  simp

theorem Leftmost.dropEnd {found : List (List Char × TagEntry)} {before behind s : List Char}
    (h : Leftmost ⟨found, before ++ behind⟩ s) :
    Leftmost ⟨found, before⟩ (foundText found ++ before) := by
  rw [leftmost_iff] at h ⊢
  obtain ⟨-, hpieces, hnone⟩ := h
  refine ⟨rfl, hpieces, ?_⟩
  intro position hreadable
  exact hnone position (hreadable.append behind)

/-- The tags of a text are those of the entries in its only leftmost cut. What stands between the quotes
of one entry makes no other tag, whatever it is, and any end of the rest, such as one from a quote that
is never closed, may as well be missing. -/
theorem ofText_eq_tagsOf_leftmost (raw : String) :
    ∃ cut : TagCut, cut.Leftmost raw.toList ∧ (∀ other, Leftmost other raw.toList → other = cut) ∧
      Tag.ofText raw = tagsOf cut.found ∧
      (∀ before gap entry after, cut.found = before ++ (gap, entry) :: after →
        ∀ body, '"' ∉ body →
          Tag.ofText (String.ofList
              (foundText before ++ gap ++ text ⟨entry.key, body⟩ ++ foundText after ++ cut.rest)) =
            tagsOf before ++ Tag.ofBody (String.ofList entry.key) body :: tagsOf after) ∧
      ∀ before behind, cut.rest = before ++ behind →
        Tag.ofText (String.ofList (foundText cut.found ++ before)) = Tag.ofText raw := by
  obtain ⟨cut, hcut⟩ := exists_leftmost raw.toList
  have htags : Tag.ofText raw = tagsOf cut.found := by
    rw [← hcut.ofText_eq, String.ofList_toList]
  refine ⟨cut, hcut, fun other hother => hcut.unique hother, htags, ?_, ?_⟩
  · intro before gap entry after hfound body hbody
    obtain ⟨found, rest⟩ := cut
    obtain rfl : found = before ++ (gap, entry) :: after := hfound
    rw [(hcut.replaceBody hbody).ofText_eq, tagsOf, List.map_append, List.map_cons]
    rfl
  · intro before behind hrest
    obtain ⟨found, rest⟩ := cut
    obtain rfl : rest = before ++ behind := hrest
    rw [hcut.dropEnd.ofText_eq, htags]

/-- A quote that closes nothing swallows the tag behind it, a key may begin within a word, and the last
quote is never closed. -/
theorem ofText_swallowed_form :
    Leftmost ⟨[("-9".toList, ⟨"id".toList, "a form:".toList⟩)], "b\" path:\"open".toList⟩
        "-9id:\"a form:\"b\" path:\"open".toList ∧
      Tag.ofText "-9id:\"a form:\"b\" path:\"open" = [⟨"id", "a form:", []⟩] ∧
      Tag.ofText "-9id:\"json:\nx,optional\"b\" path:\"open" =
        [⟨"id", "json:\nx", [.flag "optional"]⟩] ∧
      Tag.ofText "-9id:\"a form:\"b\" " = [⟨"id", "a form:", []⟩] := by
  have hcut : Leftmost ⟨[("-9".toList, ⟨"id".toList, "a form:".toList⟩)], "b\" path:\"open".toList⟩
      "-9id:\"a form:\"b\" path:\"open".toList := by decide
  obtain ⟨cut, -, hunique, htags, hbody, hrest⟩ :=
    ofText_eq_tagsOf_leftmost "-9id:\"a form:\"b\" path:\"open"
  obtain rfl := hunique _ hcut
  have htag : Tag.ofText "-9id:\"a form:\"b\" path:\"open" = [⟨"id", "a form:", []⟩] := by
    rw [htags]
    decide
  refine ⟨hcut, htag, ?_, ?_⟩
  · exact hbody [] "-9".toList _ [] rfl "json:\nx,optional".toList (by decide)
  · rw [← htag]
    exact hrest "b\" ".toList "path:\"open".toList rfl

end TagCut

end SwaggerGen
