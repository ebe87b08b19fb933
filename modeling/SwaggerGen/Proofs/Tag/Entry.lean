import Mathlib.Data.List.Infix
import Mathlib.Data.List.TakeWhile
import SwaggerGen.Tag.Scan

/-!
# Entries of tag texts

An entry is found exactly where its text stands, and the search goes on right behind it. A character at
which no entry begins is passed over.
-/

namespace SwaggerGen

/-- Whether a text is a word of ASCII letters, digits and underscores that begins with no digit. -/
def IsTagKey (key : List Char) : Prop :=
  ∃ first more, key = first :: more ∧ (first.isAlpha ∨ first = '_') ∧
    ∀ c ∈ more, c.isAlphanum ∨ c = '_'

instance : (key : List Char) → Decidable (IsTagKey key)
  | [] => .isFalse nofun
  | first :: more =>
      -- goes through the text, where the instance found by default may go through all characters
      have : Decidable (∀ c ∈ more, c.isAlphanum ∨ c = '_') := List.decidableBAll _ more
      decidable_of_iff ((first.isAlpha ∨ first = '_') ∧ ∀ c ∈ more, c.isAlphanum ∨ c = '_')
        ⟨fun h => ⟨first, more, rfl, h⟩, fun ⟨_, _, heq, h⟩ => by cases heq; exact h⟩

theorem isTagKeyStart_iff (c : Char) : isTagKeyStart c ↔ c.isAlpha ∨ c = '_' := by
  simp [isTagKeyStart]

theorem isTagKeyChar_iff (c : Char) : isTagKeyChar c ↔ c.isAlphanum ∨ c = '_' := by
  simp [isTagKeyChar]

theorem isTagKeyChar_of_isTagKeyStart {c : Char} (h : isTagKeyStart c) : isTagKeyChar c := by
  rw [isTagKeyChar_iff, Char.isAlphanum]
  rw [isTagKeyStart_iff] at h
  rcases h with h | h
  · exact .inl (by simp [h])
  · exact .inr h

namespace IsTagKey

theorem isTagKeyChar {key : List Char} (h : IsTagKey key) : ∀ c ∈ key, isTagKeyChar c := by
  obtain ⟨first, more, rfl, hfirst, hmore⟩ := h
  rw [← isTagKeyStart_iff] at hfirst
  intro c hc
  rcases List.mem_cons.mp hc with rfl | hc
  · exact isTagKeyChar_of_isTagKeyStart hfirst
  · exact (isTagKeyChar_iff c).mpr (hmore c hc)

theorem not_mem {key : List Char} (h : IsTagKey key) {c : Char} (hc : SwaggerGen.isTagKeyChar c = false) :
    c ∉ key := by
  intro hmem
  rw [h.isTagKeyChar c hmem] at hc
  cases hc

end IsTagKey

namespace TagEntry

/-- Whether an entry is one that can be written: a key, and a body without a quote. -/
structure Legal (entry : TagEntry) : Prop where
  key : IsTagKey entry.key
  quote_not_mem : '"' ∉ entry.body

theorem text_append (entry : TagEntry) (rest : List Char) :
    entry.text ++ rest = entry.key ++ ':' :: '"' :: (entry.body ++ '"' :: rest) := by
  simp [text]

theorem takeWhile_ne_quote_append {body : List Char} (h : '"' ∉ body) (rest : List Char) :
    (body ++ '"' :: rest).takeWhile (· != '"') = body := by
  rw [List.takeWhile_append_of_pos]
  · simp
  · intro c hc
    have hne : c ≠ '"' := fun heq => h (heq ▸ hc)
    simpa using hne

/-- The first quote of a text ends a body. -/
theorem exists_eq_takeWhile_ne_quote_append {rest : List Char} (h : '"' ∈ rest) :
    ∃ tail, rest.takeWhile (· != '"') ++ '"' :: tail = rest := by
  obtain ⟨before, after, rfl, hbefore⟩ := List.eq_append_cons_of_mem h
  exact ⟨after, by rw [takeWhile_ne_quote_append hbefore]⟩

theorem legal_and_prefix_of_ofHead? {s : List Char} {entry : TagEntry} (h : ofHead? s = some entry) :
    entry.Legal ∧ entry.text <+: s := by
  rw [ofHead?] at h
  split at h
  · next first more rest hkey hrest =>
      split at h
      · next hfound =>
          rw [Bool.and_eq_true, List.contains_iff_mem] at hfound
          obtain ⟨hstart, hquote⟩ := hfound
          obtain rfl := Option.some.inj h
          have hmore : ∀ c ∈ more, c.isAlphanum ∨ c = '_' := by
            intro c hc
            rw [← isTagKeyChar_iff]
            exact List.mem_takeWhile_imp (hkey ▸ List.mem_cons_of_mem first hc)
          have hbody : '"' ∉ rest.takeWhile (· != '"') := by
            intro hmem
            simpa using List.mem_takeWhile_imp hmem
          refine ⟨⟨⟨first, more, rfl, (isTagKeyStart_iff first).mp hstart, hmore⟩, hbody⟩, ?_⟩
          have hs : s = (first :: more) ++ ':' :: '"' :: rest := by
            rw [← hkey, ← hrest, List.takeWhile_append_dropWhile]
          obtain ⟨tail, htail⟩ := exists_eq_takeWhile_ne_quote_append hquote
          exact ⟨tail, by rw [hs, text_append, htail]⟩
      · cases h
  · cases h

theorem ofHead?_text_append {entry : TagEntry} (h : entry.Legal) (rest : List Char) :
    ofHead? (entry.text ++ rest) = some entry := by
  have hrun : (entry.text ++ rest).takeWhile isTagKeyChar = entry.key := by
    rw [text_append, List.takeWhile_append_of_pos h.key.isTagKeyChar]
    simp [isTagKeyChar]
  have hbehind : (entry.text ++ rest).dropWhile isTagKeyChar =
      ':' :: '"' :: (entry.body ++ '"' :: rest) := by
    rw [text_append, List.dropWhile_append_of_pos h.key.isTagKeyChar]
    simp [isTagKeyChar]
  obtain ⟨key, body⟩ := entry
  obtain ⟨⟨first, more, rfl, hfirst, -⟩, hbody⟩ := h
  rw [← isTagKeyStart_iff] at hfirst
  rw [ofHead?, hrun, hbehind]
  simp [hfirst, takeWhile_ne_quote_append hbody]

/-- A text begins with an entry exactly if the entry's text is a prefix of it. -/
theorem ofHead?_eq_some_iff (s : List Char) (entry : TagEntry) :
    ofHead? s = some entry ↔ entry.Legal ∧ entry.text <+: s := by
  constructor
  · exact legal_and_prefix_of_ofHead?
  · rintro ⟨hlegal, rest, rfl⟩
    exact ofHead?_text_append hlegal rest

theorem ofHead?_eq_none_iff (s : List Char) :
    ofHead? s = none ↔ ¬ ∃ entry : TagEntry, entry.Legal ∧ entry.text <+: s := by
  simp only [← ofHead?_eq_some_iff]
  rw [← Option.isSome_iff_exists, Option.not_isSome_iff_eq_none]

/-- If a quote is still to come behind a quote, the text up to that one decides whether an entry begins
with it. -/
theorem exists_prefix_iff_opens {before behind : List Char} (h : '"' ∈ behind) :
    (∃ entry : TagEntry, entry.Legal ∧ entry.text <+: before ++ ':' :: '"' :: behind) ↔
      ∃ key, IsTagKey key ∧ key ++ [':', '"'] <+: before ++ [':', '"'] := by
  have hopen : before ++ [':', '"'] <+: before ++ ':' :: '"' :: behind := ⟨behind, by simp⟩
  constructor
  · rintro ⟨entry, hlegal, hentry⟩
    refine ⟨entry.key, hlegal.key, ?_⟩
    have hkey : entry.key ++ [':', '"'] <+: before ++ ':' :: '"' :: behind :=
      List.IsPrefix.trans ⟨entry.body ++ ['"'], by simp [text]⟩ hentry
    apply List.prefix_of_prefix_length_le hkey hopen
    -- otherwise the quote of `before` would stand within the key
    by_contra hlong
    rw [List.length_append, List.length_append] at hlong
    have hshort : before ++ [':', '"'] <+: entry.key ++ [':'] := by
      apply List.prefix_of_prefix_length_le hopen
      · exact List.IsPrefix.trans ⟨'"' :: (entry.body ++ ['"']), by simp [text]⟩ hentry
      · simp only [List.length_append, List.length_cons, List.length_nil] at hlong ⊢
        omega
    have hquote : '"' ∈ entry.key ++ [':'] := hshort.subset (by simp)
    have hnot := hlegal.key.not_mem (c := '"') rfl
    simp [hnot] at hquote
  · rintro ⟨key, hkey, more, hmore⟩
    have hbehind : '"' ∈ more ++ behind := List.mem_append_right _ h
    obtain ⟨tail, htail⟩ := exists_eq_takeWhile_ne_quote_append hbehind
    refine ⟨⟨key, (more ++ behind).takeWhile (· != '"')⟩, ⟨hkey, ?_⟩, tail, ?_⟩
    · intro hmem
      simpa using List.mem_takeWhile_imp hmem
    · rw [text_append, htail]
      calc key ++ ':' :: '"' :: (more ++ behind)
          = (key ++ [':', '"'] ++ more) ++ behind := by simp
        _ = before ++ ':' :: '"' :: behind := by rw [hmore]; simp

theorem scan_text_append {entry : TagEntry} (h : entry.Legal) (rest : List Char) :
    scan (entry.text ++ rest) = entry :: scan rest := by
  obtain ⟨first, more, htext⟩ : ∃ first more, entry.text = first :: more := by
    obtain ⟨first, more, hkey, -⟩ := h.key
    exact ⟨first, _, by rw [text, hkey]; rfl⟩
  have hfound := ofHead?_text_append h rest
  have hlength : entry.text.length - 1 = more.length := by simp [htext]
  rw [htext, List.cons_append] at hfound ⊢
  rw [scan, scanAfter, hfound]
  simp only [hlength]
  rw [scanAfter_eq_scan_drop, List.drop_left]

theorem scan_cons_of_not_begins {c : Char} {rest : List Char}
    (h : ¬ ∃ entry : TagEntry, entry.Legal ∧ entry.text <+: c :: rest) :
    scan (c :: rest) = scan rest := by
  rw [← ofHead?_eq_none_iff] at h
  rw [scan, scanAfter, h, scan]

/-- A character that begins no key is passed over. -/
theorem scan_cons_of_not_isTagKeyChar {c : Char} (h : isTagKeyChar c = false) (rest : List Char) :
    scan (c :: rest) = scan rest := by
  apply scan_cons_of_not_begins
  rintro ⟨entry, ⟨hkey, -⟩, tail, htail⟩
  obtain ⟨first, more, hkeys, -⟩ := id hkey
  rw [text, hkeys, List.cons_append] at htail
  have hmem : first ∈ entry.key := hkeys ▸ List.mem_cons_self
  rw [(List.cons.inj htail).1] at hmem
  exact hkey.not_mem h hmem

theorem legal_of_mem_scanAfter {entry : TagEntry} (covered : Nat) (s : List Char)
    (h : entry ∈ scanAfter covered s) : entry.Legal := by
  induction s generalizing covered with
  | nil => simp [scanAfter] at h
  | cons c rest ih =>
      cases covered with
      | succ covered => exact ih covered h
      | zero =>
          rw [scanAfter] at h
          split at h
          · next found hfound =>
              rcases List.mem_cons.mp h with rfl | h
              · exact (legal_and_prefix_of_ofHead? hfound).1
              · exact ih _ h
          · exact ih 0 h

theorem legal_of_mem_scan {entry : TagEntry} {s : List Char} (h : entry ∈ scan s) : entry.Legal :=
  legal_of_mem_scanAfter 0 s h

end TagEntry

end SwaggerGen
