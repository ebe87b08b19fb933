import Mathlib.Data.List.TakeWhile
import SwaggerGen.Json.NumberReader
import SwaggerGen.Json.StringReader
import SwaggerGen.Proofs.Except

/-!
# Strings and numbers that are passed over

A string and a number that can be read can be passed over, and the same text is left behind them. Each of
them takes at least one character.
-/

namespace SwaggerGen.Json

section Strings

theorem skipCharacters_eq_drop (covered : Nat) (s : List Char) :
    skipCharacters covered s = skipCharacters 0 (s.drop covered) := by
  induction s generalizing covered with
  | nil => cases covered <;> rfl
  | cons c s ih =>
      cases covered with
      | zero => rfl
      | succ covered => exact ih covered

theorem lowerHalf_eq_ok {high : Nat} {s : List Char} {c : Char} (h : lowerHalf high s = .ok c) :
    ∃ more low, s = '\\' :: 'u' :: more ∧ hexNumber more = .ok low := by
  rw [lowerHalf.eq_def] at h
  split at h
  · cases h
  · cases h
  · next more =>
      obtain ⟨low, hlow, -⟩ := Except.bind_eq_ok_iff.mp h
      exact ⟨more, low, rfl, hlow⟩
  · cases h
  · cases h

/-- What is read as one escape, or as the two escapes of a surrogate pair, is passed over. -/
theorem skipEscape_of_readEscape {s : List Char} {c : Char} {length : Nat}
    (h : readEscape s = .ok (c, length)) :
    ∃ covered, skipEscape s = .ok covered ∧ skipCharacters covered s = skipCharacters length s := by
  cases s with
  | nil => cases h
  | cons first s =>
      rw [readEscape] at h
      rw [skipEscape]
      split at h
      · next hfirst =>
          subst hfirst
          obtain ⟨n, hn, h⟩ := Except.bind_eq_ok_iff.mp h
          refine ⟨5, by rw [if_pos rfl, hn, Except.ok_map], ?_⟩
          split at h
          · cases h
          split at h
          · obtain ⟨plain, hlower, heq⟩ := Except.bind_eq_ok_iff.mp h
            cases heq
            obtain ⟨more, low, hmore, hlow⟩ := lowerHalf_eq_ok hlower
            have hdrop : s.drop 10 = more.drop 4 := by
              rw [← List.drop_drop (i := 6) (j := 4), hmore]
              rfl
            rw [skipCharacters_eq_drop 5, skipCharacters_eq_drop 11, List.drop_succ_cons,
              List.drop_succ_cons, hmore, hdrop, skipCharacters, if_neg (by decide), if_pos rfl,
              skipEscape, if_pos rfl, hlow, Except.ok_map, Except.ok_bind, skipCharacters_eq_drop 5]
            rfl
          · cases h
            rfl
      · next hfirst =>
          split at h
          · next plain hletter =>
              cases h
              exact ⟨1, by rw [if_neg hfirst, hletter]; rfl, rfl⟩
          · cases h

theorem skipCharacters_of_readCharacters {covered : Nat} {s characters rest : List Char}
    (h : readCharacters covered s = .ok (characters, rest)) : skipCharacters covered s = .ok rest := by
  induction s generalizing covered characters with
  | nil => cases covered <;> cases h
  | cons c s ih =>
      cases covered with
      | succ covered => exact ih h
      | zero =>
          rw [readCharacters] at h
          rw [skipCharacters]
          split at h
          · next hquote =>
              cases h
              rw [if_pos hquote]
          next hquote =>
          rw [if_neg hquote]
          split at h
          · next hescape =>
              obtain ⟨⟨plain, length⟩, hread, h⟩ := Except.bind_eq_ok_iff.mp h
              obtain ⟨⟨more, _⟩, hmore, heq⟩ := Except.bind_eq_ok_iff.mp h
              cases heq
              obtain ⟨covered, hskip, hcovered⟩ := skipEscape_of_readEscape hread
              rw [if_pos hescape, hskip, Except.ok_bind, hcovered]
              exact ih hmore
          next hescape =>
          rw [if_neg hescape]
          split at h
          · cases h
          next hcontrol =>
          obtain ⟨⟨more, _⟩, hmore, heq⟩ := Except.bind_eq_ok_iff.mp h
          cases heq
          rw [if_neg hcontrol]
          exact ih hmore

theorem skipString_of_readString {s rest : List Char} {x : String}
    (h : readString s = .ok (x, rest)) : skipString s = .ok rest := by
  obtain ⟨⟨characters, _⟩, hread, heq⟩ := Except.bind_eq_ok_iff.mp h
  cases heq
  exact skipCharacters_of_readCharacters hread

theorem length_lt_of_skipCharacters {covered : Nat} {s rest : List Char}
    (h : skipCharacters covered s = .ok rest) : rest.length < s.length := by
  induction s generalizing covered with
  | nil => cases covered <;> cases h
  | cons c s ih =>
      cases covered with
      | succ covered => exact Nat.lt_succ_of_lt (ih h)
      | zero =>
          rw [skipCharacters] at h
          split at h
          · cases h
            exact Nat.lt_succ_self _
          split at h
          · obtain ⟨length, -, h⟩ := Except.bind_eq_ok_iff.mp h
            exact Nat.lt_succ_of_lt (ih h)
          split at h
          · cases h
          · exact Nat.lt_succ_of_lt (ih h)

end Strings

section Numbers

theorem takeExponent_eq (value : Nat) (s : List Char) :
    (takeExponent value s).2.2.dropWhile Char.isDigit = s.dropWhile Char.isDigit ∧
      ((takeExponent value s).2.1 = false →
        (takeExponent value s).2.2 = s.dropWhile Char.isDigit) := by
  induction s generalizing value with
  | nil => exact ⟨rfl, fun _ => rfl⟩
  | cons c s ih =>
      rw [takeExponent]
      split
      · next hdigit =>
          rw [List.dropWhile_cons_of_pos hdigit]
          split
          · exact ih _
          · exact ⟨rfl, nofun⟩
      · next hdigit =>
          rw [List.dropWhile_cons_of_neg hdigit]
          exact ⟨rfl, fun _ => rfl⟩

theorem finishReal_eq_ok {negative : Bool} {significand : Nat} {exponent : Int} {s rest : List Char}
    {n : Number} (h : finishReal negative significand exponent s = .ok (n, rest)) : s = rest := by
  rw [finishReal] at h
  split at h
  · cases h
    rfl
  · cases h

theorem skipExponent_of_readExponent {negative : Bool} {significand : Nat} {exponent : Int}
    {s rest : List Char} {n : Number}
    (h : readExponent negative significand exponent s = .ok (n, rest)) : skipExponent s = .ok rest := by
  rw [readExponent] at h
  rw [skipExponent]
  generalize takeSign s = sign at h ⊢
  obtain ⟨down, t⟩ := sign
  cases t with
  | nil => cases h
  | cons c t =>
      dsimp only at h ⊢
      split at h
      · next hdigit =>
          obtain ⟨hbeyond, hwithin⟩ := takeExponent_eq 0 (c :: t)
          rw [List.dropWhile_cons_of_pos hdigit] at hbeyond hwithin
          rw [if_pos hdigit]
          split at h
          · next hexponent =>
              split at h
              · cases h
              · cases h
                rw [← hbeyond, hexponent]
          · next hexponent =>
              rw [hexponent] at hwithin
              rw [← hwithin rfl, finishReal_eq_ok h]
      · cases h

theorem skipScale_of_readScale {negative : Bool} {significand : Nat} {exponent : Int}
    {s rest : List Char} {n : Number} (h : readScale negative significand exponent s = .ok (n, rest)) :
    skipScale s = .ok rest := by
  rw [readScale.eq_def] at h
  rw [skipScale.eq_def]
  split at h
  · exact skipExponent_of_readExponent h
  · exact skipExponent_of_readExponent h
  · exact congrArg _ (finishReal_eq_ok h)

theorem skipScale_of_readFraction {negative : Bool} {significand : Nat} {exponent : Int}
    {s rest : List Char} {n : Number}
    (h : readFraction negative significand exponent s = .ok (n, rest)) :
    s.head?.any Char.isDigit ∧ skipScale (s.dropWhile Char.isDigit) = .ok rest := by
  cases s with
  | nil => cases h
  | cons c s =>
      simp only [readFraction] at h
      split at h
      · cases h
      · next hdigits =>
          refine ⟨?_, skipScale_of_readScale h⟩
          by_contra hdigit
          exact hdigits (List.takeWhile_cons_of_neg hdigit)

theorem skipMagnitude_of_readMagnitude {negative : Bool} {s rest : List Char} {n : Number}
    (h : readMagnitude negative s = .ok (n, rest)) : skipMagnitude s = .ok rest := by
  cases s with
  | nil => cases h
  | cons c s =>
      rw [readMagnitude] at h
      rw [skipMagnitude]
      split at h
      · cases h
      next hdigit =>
      rw [if_neg hdigit]
      split at h
      · cases h
      next hzero =>
      rw [if_neg hzero]
      dsimp only at h
      generalize (c :: s).dropWhile Char.isDigit = t at h ⊢
      split at h
      · obtain ⟨hfraction, hscale⟩ := skipScale_of_readFraction h
        exact (if_pos hfraction).trans hscale
      · exact skipExponent_of_readExponent h
      · exact skipExponent_of_readExponent h
      · next hpoint hlower hupper =>
          have hrest : t = rest := by
            split at h
            · cases h
              rfl
            · exact finishReal_eq_ok h
          subst hrest
          split
          · exact absurd rfl (hpoint _)
          · rw [skipScale.eq_def]
            split
            · exact absurd rfl (hlower _)
            · exact absurd rfl (hupper _)
            · rfl

/-- A number is passed over behind its sign. -/
theorem skipMagnitude_of_readNumber {s rest : List Char} {n : Number}
    (h : readNumber s = .ok (n, rest)) :
    (∃ more, s = '-' :: more ∧ skipMagnitude more = .ok rest) ∨
      (∀ more, s ≠ '-' :: more) ∧ skipMagnitude s = .ok rest := by
  rw [readNumber.eq_def] at h
  split at h
  · next more => exact .inl ⟨more, rfl, skipMagnitude_of_readMagnitude h⟩
  · next hsign => exact .inr ⟨hsign, skipMagnitude_of_readMagnitude h⟩

theorem length_takeSign_le (s : List Char) : (takeSign s).2.length ≤ s.length := by
  rw [takeSign.eq_def]
  split <;> simp

theorem length_le_of_skipExponent {s rest : List Char} (h : skipExponent s = .ok rest) :
    rest.length ≤ s.length := by
  have hsign := length_takeSign_le s
  rw [skipExponent] at h
  split at h
  · cases h
  · next c more heq =>
      rw [heq, List.length_cons] at hsign
      split at h
      · cases h
        have hdigits := List.length_dropWhile_le Char.isDigit more
        omega
      · cases h

theorem length_le_of_skipScale {s rest : List Char} (h : skipScale s = .ok rest) :
    rest.length ≤ s.length := by
  rw [skipScale.eq_def] at h
  split at h
  · exact Nat.le_succ_of_le (length_le_of_skipExponent h)
  · exact Nat.le_succ_of_le (length_le_of_skipExponent h)
  · cases h
    exact Nat.le_refl _

theorem length_lt_of_skipMagnitude {s rest : List Char} (h : skipMagnitude s = .ok rest) :
    rest.length < s.length := by
  cases s with
  | nil => cases h
  | cons c s =>
      rw [skipMagnitude] at h
      split at h
      · cases h
      next hdigit =>
      have hdigits := List.length_dropWhile_le Char.isDigit s
      rw [List.dropWhile_cons_of_pos (by simpa using hdigit)] at h
      generalize s.dropWhile Char.isDigit = t at h hdigits
      rw [List.length_cons]
      split at h
      · cases h
      split at h
      · next more =>
          split at h
          · have hscale := length_le_of_skipScale h
            have hfraction := List.length_dropWhile_le Char.isDigit more
            rw [List.length_cons] at hdigits
            omega
          · cases h
      · have hscale := length_le_of_skipScale h
        omega

end Numbers

end SwaggerGen.Json
