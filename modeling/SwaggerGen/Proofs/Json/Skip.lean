import Mathlib.Data.List.DropRight
import SwaggerGen.Json.Skip
import SwaggerGen.Proofs.Json.Reading
import SwaggerGen.Proofs.Json.Scalars

/-!
# Passing over what can be read

A value that can be read as a tree can be passed over, and the same text is left behind it. One step after
another, at most two for each character, this leads through the text.
-/

namespace SwaggerGen.Json

section Parts

variable {s t rest : List Char}

theorem length_lt_of_skipSpace {c : Char} (h : skipSpace s = c :: t) : t.length < s.length := by
  have hlength := List.length_dropWhile_le isSpace s
  rw [show s.dropWhile isSpace = c :: t from h] at hlength
  exact hlength

theorem skipSpace_skipSpace (s : List Char) : skipSpace (skipSpace s) = skipSpace s :=
  List.dropWhile_idempotent isSpace s

theorem readTree_skipSpace (limit : Nat) (s : List Char) :
    readTree limit (skipSpace s) = readTree limit s := by
  cases limit <;> simp only [readTree, readValue, skipSpace_skipSpace]

theorem length_le_of_readWord {letters : List Char} (h : readWord letters s = .ok ((), rest)) :
    rest.length ≤ s.length := by
  induction letters generalizing s with
  | nil =>
      cases h
      exact Nat.le_refl _
  | cons letter letters ih =>
      cases s with
      | nil => cases h
      | cons c s =>
          rw [readWord] at h
          split at h
          · exact Nat.le_succ_of_le (ih h)
          · cases h

theorem nextItem?_eq_none {first : Bool} (h : nextItem? first s = .ok none) :
    ∃ more, skipSpace s = ']' :: more := by
  rw [nextItem?] at h
  split at h
  · cases h
  · next more hs => exact ⟨more, hs⟩
  · split at h
    · cases h
    split at h
    · split at h <;> cases h
    · cases h

/-- At the closing bracket it makes no difference whether an item stands before it. -/
theorem nextItem?_none {first : Bool} (h : nextItem? first s = .ok none) (first' : Bool) :
    nextItem? first' s = .ok none := by
  obtain ⟨more, hs⟩ := nextItem?_eq_none h
  rw [nextItem?, hs]
  rfl

theorem nextItem?_eq_some {first : Bool} (h : nextItem? first s = .ok (some t)) :
    (first = true ∧ skipSpace s = t ∧ ∃ c more, t = c :: more ∧ c ≠ ']') ∨
      (first = false ∧ ∃ more, skipSpace s = ',' :: more ∧ t = skipSpace more) := by
  rw [nextItem?] at h
  split at h
  · cases h
  · cases h
  · next c more hbracket hs =>
      split at h
      · next hfirst =>
          cases h
          exact .inl ⟨hfirst, hs, c, more, rfl, hbracket⟩
      next hfirst =>
      split at h
      · next hcomma =>
          subst hcomma
          refine .inr ⟨by simpa using hfirst, more, hs, ?_⟩
          split at h
          · cases h
          · cases h
          · cases h
            rfl
      · cases h

theorem length_le_of_nextItem? {first : Bool} (h : nextItem? first s = .ok (some t)) :
    t.length ≤ s.length := by
  obtain ⟨-, rfl, -⟩ | ⟨-, more, hs, rfl⟩ := nextItem?_eq_some h
  · exact List.length_dropWhile_le isSpace s
  · have hlength := length_lt_of_skipSpace hs
    have hmore := List.length_dropWhile_le isSpace more
    exact Nat.le_trans hmore (Nat.le_of_lt hlength)

/-- A list cannot be closed in front of an item. -/
theorem closeList_of_nextItem? {first : Bool} (h : nextItem? first s = .ok (some t)) :
    ∃ fault, closeList s = .error fault := by
  rw [closeList]
  obtain ⟨-, hs, c, more, rfl, hbracket⟩ | ⟨-, more, hs, -⟩ := nextItem?_eq_some h
  · rw [hs]
    split
    · next heq => cases heq
    · next heq => exact absurd (List.cons.inj heq).1 hbracket
    · split <;> exact ⟨_, rfl⟩
    · exact ⟨_, rfl⟩
  · rw [hs]
    split
    · next heq => cases heq
    · next heq => exact absurd (List.cons.inj heq).1 (by decide)
    · split <;> exact ⟨_, rfl⟩
    · exact ⟨_, rfl⟩

theorem closeList_eq_ok (h : closeList s = .ok rest) : skipSpace s = ']' :: rest := by
  rw [closeList] at h
  split at h
  · cases h
  · next hs =>
      cases h
      exact hs
  · split at h <;> cases h
  · cases h

theorem closeObject_eq_ok (h : closeObject s = .ok rest) : skipSpace s = '}' :: rest := by
  rw [closeObject] at h
  split at h
  · cases h
  · next hs =>
      cases h
      exact hs
  · cases h
  · cases h

theorem nextKey?_eq_some {first : Bool} {key : String} (h : nextKey? first s = .ok (some (key, t))) :
    ∃ more, readString more = .ok (key, t) ∧
      (first = true ∧ skipSpace s = '"' :: more ∨
        first = false ∧ ∃ behind, skipSpace s = ',' :: behind ∧ skipSpace behind = '"' :: more) := by
  have hkey {more} (h : (readString more).map some = .ok (some (key, t))) :
      readString more = .ok (key, t) := by
    obtain ⟨entry, hstring, heq⟩ := Except.map_eq_ok_iff.mp h
    cases heq
    exact hstring
  rw [nextKey?] at h
  split at h
  · cases h
  · cases h
  · next c more _ hs =>
      split at h
      · next hfirst =>
          split at h
          · next hquote =>
              subst hquote
              exact ⟨more, hkey h, .inl ⟨hfirst, hs⟩⟩
          · cases h
      next hfirst =>
      split at h
      · next hcomma =>
          subst hcomma
          split at h
          · cases h
          · next inside hinside =>
              exact ⟨inside, hkey h, .inr ⟨by simpa using hfirst, more, hs, hinside⟩⟩
          · cases h
          · cases h
      · cases h

theorem length_le_of_readColon (h : readColon s = .ok rest) : rest.length ≤ s.length := by
  rw [readColon] at h
  split at h
  · cases h
  · next hs =>
      cases h
      exact Nat.le_of_lt (length_lt_of_skipSpace hs)
  · cases h

theorem length_lt_of_nextKey? {first : Bool} {key : String} {u : List Char}
    (h : nextKey? first s = .ok (some (key, t))) (hcolon : readColon t = .ok u) :
    u.length < s.length := by
  obtain ⟨more, hstring, hs⟩ := nextKey?_eq_some h
  have hcharacters := length_lt_of_skipCharacters (skipString_of_readString hstring)
  have hcolon := length_le_of_readColon hcolon
  obtain ⟨-, hs⟩ | ⟨-, behind, hs, hbehind⟩ := hs
  · have hlength := length_lt_of_skipSpace hs
    omega
  · have hlength := length_lt_of_skipSpace hs
    have hquote := length_lt_of_skipSpace hbehind
    omega

end Parts

/-- Where passing over values stands: what comes next, the open brackets, and the text that is left. -/
structure Place where
  awaiting : Awaiting
  brackets : List Bracket
  text : List Char

namespace Place

/-- How many steps may be needed from a place on. -/
def budget (p : Place) : Nat := 2 * p.text.length + if p.awaiting = .firstItem then 1 else 0

theorem budget_value (brackets : List Bracket) (s : List Char) :
    (mk .value brackets s).budget = 2 * s.length := rfl

theorem budget_comma (brackets : List Bracket) (s : List Char) :
    (mk .comma brackets s).budget = 2 * s.length := rfl

theorem budget_firstItem (brackets : List Bracket) (s : List Char) :
    (mk .firstItem brackets s).budget = 2 * s.length + 1 := rfl

def skip (p : Place) (bound : Nat) : Except Fault (List Char) :=
  skipInside bound p.awaiting p.brackets p.text

/-- Whether passing over values leads from a place to another one, where no more steps are needed. -/
structure Leads (p q : Place) : Prop where
  budget_lt : q.budget < p.budget
  skip_eq : ∀ bound, p.budget < bound → ∃ bound', q.budget < bound' ∧ p.skip bound = q.skip bound'

theorem Leads.trans {p q r : Place} (h : p.Leads q) (h' : q.Leads r) : p.Leads r where
  budget_lt := Nat.lt_trans h'.budget_lt h.budget_lt
  skip_eq bound hbound := by
    obtain ⟨bound, hbound, heq⟩ := h.skip_eq bound hbound
    obtain ⟨bound, hbound, heq'⟩ := h'.skip_eq bound hbound
    exact ⟨bound, hbound, heq.trans heq'⟩

theorem leads_of_step {p q : Place} (hlt : q.budget < p.budget)
    (h : ∀ bound, p.skip (bound + 2) = q.skip (bound + 1)) : p.Leads q where
  budget_lt := hlt
  skip_eq bound hbound := by
    obtain ⟨bound, rfl⟩ : ∃ more, bound = more + 2 := ⟨bound - 2, by omega⟩
    exact ⟨bound + 1, by omega, h bound⟩

end Place

/-- What comes next in a container: its first item, or a comma. -/
def Awaiting.next (first : Bool) : Awaiting := if first then .firstItem else .comma

theorem Place.le_budget_next (first : Bool) (brackets : List Bracket) (s : List Char) :
    2 * s.length ≤ (Place.mk (.next first) brackets s).budget := Nat.le_add_right _ _

section Steps

open Place

variable {s t u rest : List Char} {outer : List Bracket}

theorem leads_value (hlength : rest.length < s.length)
    (hskip : ∀ bound, skipInside (bound + 1) .value outer s = skipInside bound .comma outer rest) :
    Leads ⟨.value, outer, s⟩ ⟨.comma, outer, rest⟩ := by
  refine leads_of_step ?_ fun bound => hskip (bound + 1)
  rw [budget_value, budget_comma]
  omega

/-- A blank in front of a value makes no difference. -/
theorem leads_value_skipSpace {p : Place} (h : p.Leads ⟨.value, outer, s⟩) :
    p.Leads ⟨.value, outer, skipSpace s⟩ := by
  have hlength := List.length_dropWhile_le isSpace s
  have hbudget : (Place.mk .value outer (skipSpace s)).budget ≤ (Place.mk .value outer s).budget :=
    Nat.mul_le_mul_left 2 hlength
  refine ⟨Nat.lt_of_le_of_lt hbudget h.budget_lt, fun bound hbound => ?_⟩
  obtain ⟨bound, hbound, heq⟩ := h.skip_eq bound hbound
  obtain ⟨bound, rfl⟩ : ∃ less, bound = less + 1 := ⟨bound - 1, by omega⟩
  refine ⟨bound + 1, Nat.lt_of_le_of_lt hbudget hbound, heq.trans ?_⟩
  simp only [skip, skipInside, skipSpace_skipSpace]

theorem leads_open {bracket : Bracket} {c : Char} (hs : skipSpace s = c :: t)
    (hskip : ∀ bound, skipInside (bound + 1) .value outer s =
      skipInside bound .firstItem (bracket :: outer) t) :
    Leads ⟨.value, outer, s⟩ ⟨.firstItem, bracket :: outer, t⟩ := by
  have hlength := length_lt_of_skipSpace hs
  refine leads_of_step ?_ fun bound => hskip (bound + 1)
  rw [budget_value, budget_firstItem]
  omega

theorem leads_close {first : Bool} (bracket : Bracket) (hs : skipSpace s = bracket.closing :: rest) :
    Leads ⟨.next first, bracket :: outer, s⟩ ⟨.comma, outer, rest⟩ := by
  have hlength := length_lt_of_skipSpace hs
  refine leads_of_step ?_ fun bound => ?_
  · have hnext := le_budget_next first (bracket :: outer) s
    rw [budget_comma]
    omega
  · cases first <;> simp [skip, skipInside, Awaiting.next, hs]

theorem leads_item {first : Bool} (h : nextItem? first s = .ok (some t)) :
    Leads ⟨.next first, .square :: outer, s⟩ ⟨.value, .square :: outer, t⟩ := by
  obtain ⟨rfl, hs, c, more, rfl, hbracket⟩ | ⟨rfl, more, hs, rfl⟩ := nextItem?_eq_some h
  · have hlength := length_lt_of_skipSpace hs
    refine leads_of_step ?_ fun bound => ?_
    · rw [Awaiting.next, if_pos rfl, budget_value, budget_firstItem, List.length_cons]
      omega
    · simp [skip, skipInside, Awaiting.next, hs, Bracket.closing, hbracket, skipKey]
  · have hlength := length_lt_of_skipSpace hs
    refine leads_value_skipSpace (leads_of_step ?_ fun bound => ?_)
    · rw [Awaiting.next, if_neg (by decide), budget_value, budget_comma]
      omega
    · simp [skip, skipInside, Awaiting.next, hs, Bracket.closing, skipKey]

theorem leads_field {first : Bool} {key : String} (h : nextKey? first s = .ok (some (key, t)))
    (hcolon : readColon t = .ok u) :
    Leads ⟨.next first, .curly :: outer, s⟩ ⟨.value, .curly :: outer, u⟩ := by
  have hlength := length_lt_of_nextKey? h hcolon
  have hnext := le_budget_next first (.curly :: outer) s
  obtain ⟨more, hstring, hs⟩ := nextKey?_eq_some h
  have hkey {x : List Char} (hx : skipSpace x = '"' :: more) : skipKey .curly x = .ok u := by
    rw [skipKey, hx]
    simp only [skipString_of_readString hstring, Except.ok_bind, hcolon]
  refine leads_of_step (by rw [budget_value]; omega) fun bound => ?_
  obtain ⟨rfl, hs⟩ | ⟨rfl, behind, hs, hbehind⟩ := hs
  · have hquote : skipSpace ('"' :: more) = '"' :: more := by rw [← hs, skipSpace_skipSpace]
    simp [skip, skipInside, Awaiting.next, hs, Bracket.closing, hkey hquote]
  · simp [skip, skipInside, Awaiting.next, hs, Bracket.closing, hkey hbehind]

/-- Items are passed over with the closing bracket behind them, if each of them is. -/
theorem leads_of_readsItems {tree : Reader Json} (htree : ∀ {t item u} {outer : List Bracket},
      tree t = .ok (item, u) → Leads ⟨.value, outer, t⟩ ⟨.comma, outer, u⟩)
    {first : Bool} {items : List Json} (h : ReadsItems tree first s items u)
    (hclose : closeList u = .ok rest) :
    Leads ⟨.next first, .square :: outer, s⟩ ⟨.comma, outer, rest⟩ := by
  induction h with
  | nil => exact leads_close .square (closeList_eq_ok hclose)
  | cons hnext hitem _ ih => exact ((leads_item hnext).trans (htree hitem)).trans (ih hclose)

theorem leads_of_readsFields {tree : Reader Json} (htree : ∀ {t item u} {outer : List Bracket},
      tree t = .ok (item, u) → Leads ⟨.value, outer, t⟩ ⟨.comma, outer, u⟩)
    {first : Bool} {fields : List (String × Json)} (h : ReadsFields tree first s fields u)
    (hclose : closeObject u = .ok rest) :
    Leads ⟨.next first, .curly :: outer, s⟩ ⟨.comma, outer, rest⟩ := by
  induction h with
  | nil => exact leads_close .curly (closeObject_eq_ok hclose)
  | cons hnext hcolon hvalue _ ih =>
      exact ((leads_field hnext hcolon).trans (htree hvalue)).trans (ih hclose)

theorem leads_of_word {letters : List Char} {c : Char} (hs : skipSpace s = c :: t)
    (hword : readWord letters t = .ok ((), rest))
    (hskip : ∀ bound, skipInside (bound + 1) .value outer s = do
      let (_, rest) ← readWord letters t
      skipInside bound .comma outer rest) :
    Leads ⟨.value, outer, s⟩ ⟨.comma, outer, rest⟩ := by
  have hlength := length_lt_of_skipSpace hs
  have hletters := length_le_of_readWord hword
  refine leads_value (by omega) fun bound => ?_
  rw [hskip, hword]
  rfl

theorem leads_of_number {c : Char} {n : Number} (hs : skipSpace s = c :: t)
    (hc : c = '-' ∨ c.isDigit) (hnumber : readNumber (c :: t) = .ok (n, rest)) :
    Leads ⟨.value, outer, s⟩ ⟨.comma, outer, rest⟩ := by
  have hlength := length_lt_of_skipSpace hs
  obtain ⟨more, heq, hskip⟩ | ⟨hsign, hskip⟩ := skipMagnitude_of_readNumber hnumber
  · cases heq
    have hdigits := length_lt_of_skipMagnitude hskip
    refine leads_value (by omega) fun bound => ?_
    simp [skipInside, hs, hskip]
  · have hdigits := length_lt_of_skipMagnitude hskip
    have hdigit : c.isDigit := hc.resolve_left fun heq => hsign t (by rw [heq])
    rw [List.length_cons] at hdigits
    refine leads_value (by omega) fun bound => ?_
    simp only [skipInside, hs]
    split <;> rename_i heq <;> cases heq
    -- the last branch is that of a digit, which none of the marks before it is
    case h_9 => simp [hdigit, hskip]
    all_goals exact absurd hdigit (by decide)

/-- A tree that is read is passed over, inside any brackets. -/
theorem leads_of_readTree {limit : Nat} {json : Json} (h : readTree limit s = .ok (json, rest)) :
    Leads ⟨.value, outer, s⟩ ⟨.comma, outer, rest⟩ := by
  induction limit using Nat.strong_induction_on generalizing s json rest outer with
  | _ limit ih =>
      cases reads_of_readTree h with
      | null hs hword => exact leads_of_word hs hword fun bound => by simp [skipInside, hs]
      | truth hs hword => exact leads_of_word hs hword fun bound => by simp [skipInside, hs]
      | falsity hs hword => exact leads_of_word hs hword fun bound => by simp [skipInside, hs]
      | number hs hc hnumber => exact leads_of_number hs hc hnumber
      | string hs hstring =>
          have hskip := skipString_of_readString hstring
          have hlength := length_lt_of_skipSpace hs
          have hcharacters := length_lt_of_skipCharacters hskip
          exact leads_value (by omega) fun bound => by simp [skipInside, hs, hskip]
      | @array limit t u _ items hs hitems hclose =>
          have hopen : Leads ⟨.value, outer, s⟩ ⟨.next true, .square :: outer, t⟩ :=
            leads_open hs fun bound => by simp [skipInside, hs]
          exact hopen.trans (leads_of_readsItems (ih limit (Nat.lt_succ_self _)) hitems hclose)
      | @object limit t u _ fields hs hfields hclose =>
          have hopen : Leads ⟨.value, outer, s⟩ ⟨.next true, .curly :: outer, t⟩ :=
            leads_open hs fun bound => by simp [skipInside, hs]
          exact hopen.trans (leads_of_readsFields (ih limit (Nat.lt_succ_self _)) hfields hclose)

end Steps

/-- What is read as a tree is passed over, and the same text is left behind it. -/
theorem skipValue_of_readTree {limit : Nat} {s rest : List Char} {json : Json}
    (h : readTree limit s = .ok (json, rest)) : skipValue s = .ok rest := by
  have hleads : Place.Leads ⟨.value, [], s⟩ ⟨.comma, [], rest⟩ := leads_of_readTree h
  obtain ⟨bound, hbound, heq⟩ := hleads.skip_eq (2 * s.length + 2) (by simp [Place.budget])
  obtain ⟨bound, rfl⟩ : ∃ less, bound = less + 1 := ⟨bound - 1, by omega⟩
  exact heq

/-- Reading a tree takes at least one character. -/
theorem length_lt_of_readTree {limit : Nat} {s rest : List Char} {json : Json}
    (h : readTree limit s = .ok (json, rest)) : rest.length < s.length := by
  have hleads : Place.Leads ⟨.value, [], s⟩ ⟨.comma, [], rest⟩ := leads_of_readTree h
  have hbudget := hleads.budget_lt
  rw [Place.budget_value, Place.budget_comma] at hbudget
  omega

end SwaggerGen.Json
