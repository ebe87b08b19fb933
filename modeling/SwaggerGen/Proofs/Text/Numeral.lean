import Mathlib.Data.List.Forall2
import Mathlib.Data.Nat.Digits.Defs
import SwaggerGen.Text.Digits

/-!
# Numerals

A row of digits is read as the number that it is a numeral of, and is not read if it is no numeral.
Numbers that fit have a numeral of any given width.
-/

namespace SwaggerGen.Text

/-- Whether a character is the digit of a value. Letters count in either case. -/
def IsDigit (base : Nat) (c : Char) (value : Nat) : Prop :=
  value < base ∧
    ("0123456789abcdef".toList[value]? = some c ∨ "0123456789ABCDEF".toList[value]? = some c)

/-- Whether digits, the most significant first, are a numeral of a number. -/
def IsNumeral (base : Nat) (digits : List Char) (n : Nat) : Prop :=
  ∃ values, List.Forall₂ (IsDigit base) digits values ∧ Nat.ofDigits base values.reverse = n

theorem digit?_eq_some_iff_of_le {base : Nat} (h : base ≤ 16) (c : Char) (value : Nat) :
    digit? base c = some value ↔ value < base ∧ digit? 16 c = some value := by
  unfold digit?
  split_ifs <;> simp only [Option.ite_none_right_eq_some, Option.some.injEq, Nat.lt_irrefl, false_and,
    and_false] <;> omega

theorem toNat_lt_of_digit? {c : Char} {value : Nat} (h : digit? 16 c = some value) :
    c.toNat < 128 := by
  unfold digit? at h
  split_ifs at h with hdigit hlower hupper
  · rw [Char.isDigit, Bool.and_eq_true, decide_eq_true_eq, decide_eq_true_eq] at hdigit
    have hle : c.toNat ≤ '9'.toNat := hdigit.2
    exact Nat.lt_of_le_of_lt hle (by decide)
  · have hle : c.toNat ≤ 'f'.toNat := hlower.2
    exact Nat.lt_of_le_of_lt hle (by decide)
  · have hle : c.toNat ≤ 'F'.toNat := hupper.2
    exact Nat.lt_of_le_of_lt hle (by decide)
  · simp at h

theorem digit?_sixteen_eq_some_iff (c : Char) (value : Nat) :
    digit? 16 c = some value ↔ IsDigit 16 c value := by
  constructor
  · intro h
    have hread : ∀ n < 128, ∀ v ∈ digit? 16 (Char.ofNat n),
        "0123456789abcdef".toList[v]? = some (Char.ofNat n) ∨
          "0123456789ABCDEF".toList[v]? = some (Char.ofNat n) := by decide
    have hrow := hread c.toNat (toNat_lt_of_digit? h)
    rw [Char.ofNat_toNat] at hrow
    exact ⟨digit?_lt h, hrow value h⟩
  · rintro ⟨hvalue, hrow⟩
    have hlower : ∀ v < 16, "0123456789abcdef".toList[v]?.map (digit? 16) = some (some v) := by decide
    have hupper : ∀ v < 16, "0123456789ABCDEF".toList[v]?.map (digit? 16) = some (some v) := by decide
    rcases hrow with hrow | hrow
    · have hread := hlower value hvalue
      rwa [hrow, Option.map_some, Option.some.injEq] at hread
    · have hread := hupper value hvalue
      rwa [hrow, Option.map_some, Option.some.injEq] at hread

theorem digit?_eq_some_iff {base : Nat} (h : base ≤ 16) (c : Char) (value : Nat) :
    digit? base c = some value ↔ IsDigit base c value := by
  rw [digit?_eq_some_iff_of_le h, digit?_sixteen_eq_some_iff, IsDigit, IsDigit]
  constructor
  · rintro ⟨hvalue, -, hrow⟩
    exact ⟨hvalue, hrow⟩
  · rintro ⟨hvalue, hrow⟩
    exact ⟨hvalue, by omega, hrow⟩

theorem continueNumber?_eq_some_iff {base : Nat} (h : base ≤ 16) (start n : Nat)
    (digits : List Char) :
    continueNumber? base start digits = some n ↔
      ∃ values, List.Forall₂ (IsDigit base) digits values ∧
        start * base ^ digits.length + Nat.ofDigits base values.reverse = n := by
  induction digits generalizing start with
  | nil => simp [continueNumber?]
  | cons c digits ih =>
      have hnumber : ∀ (value : Nat) (values : List Nat), digits.length = values.length →
          (start * base + value) * base ^ digits.length + Nat.ofDigits base values.reverse =
            start * base ^ (c :: digits).length + Nat.ofDigits base (value :: values).reverse := by
        intro value values hlength
        rw [List.reverse_cons, Nat.ofDigits_append, Nat.ofDigits_singleton, List.length_reverse,
          ← hlength, List.length_cons, Nat.pow_succ]
        ring
      rw [continueNumber?, Option.bind_eq_some_iff]
      constructor
      · rintro ⟨value, hvalue, hmore⟩
        obtain ⟨values, hvalues, hn⟩ := (ih _).mp hmore
        refine ⟨value :: values, .cons ((digit?_eq_some_iff h c value).mp hvalue) hvalues, ?_⟩
        rw [← hnumber value values hvalues.length_eq, hn]
      · rintro ⟨values, hall, hn⟩
        cases hall with
        | @cons _ value _ values hvalue hvalues =>
            have hdigit := (digit?_eq_some_iff h c value).mpr hvalue
            refine ⟨value, hdigit, (ih _).mpr ⟨values, hvalues, ?_⟩⟩
            rw [hnumber value values hvalues.length_eq, hn]

theorem number?_eq_some_iff {base : Nat} (h : base ≤ 16) (n : Nat) (digits : List Char) :
    number? base digits = some n ↔ digits ≠ [] ∧ IsNumeral base digits n := by
  rw [number?, Option.ite_none_left_eq_some, continueNumber?_eq_some_iff h, List.isEmpty_iff]
  simp only [Nat.zero_mul, Nat.zero_add, IsNumeral]

/-- A number in a fixed count of leading digits is read if they are a numeral of it. -/
theorem leadingNumber?_eq_some_iff {base count : Nat} (h : base ≤ 16) (hcount : 0 < count) (n : Nat)
    (s : List Char) :
    leadingNumber? base count s = some n ↔
      ∃ digits rest, s = digits ++ rest ∧ digits.length = count ∧ IsNumeral base digits n := by
  rw [leadingNumber?, Option.ite_none_right_eq_some, number?_eq_some_iff h]
  constructor
  · rintro ⟨hlength, -, hnumeral⟩
    exact ⟨s.take count, s.drop count, (List.take_append_drop count s).symm, hlength, hnumeral⟩
  · rintro ⟨digits, rest, rfl, hlength, hnumeral⟩
    rw [List.take_left' hlength]
    refine ⟨hlength, ?_, hnumeral⟩
    apply List.ne_nil_of_length_pos
    rwa [hlength]

/-- The numeral of a number in a fixed count of digits. -/
def numeral (base : Nat) : Nat → Nat → List Char
  | 0, _ => []
  | count + 1, n => numeral base count (n / base) ++ [Nat.digitChar (n % base)]

@[simp] theorem length_numeral (base count n : Nat) : (numeral base count n).length = count := by
  induction count generalizing n with
  | zero => rfl
  | succ count ih => simp [numeral, ih]

theorem isDigit_digitChar {base value : Nat} (hbase : base ≤ 16) (h : value < base) :
    IsDigit base (Nat.digitChar value) value := by
  have hrow : ∀ v < 16, "0123456789abcdef".toList[v]? = some (Nat.digitChar v) := by decide
  exact ⟨h, .inl (hrow value (by omega))⟩

theorem isNumeral_numeral {base count n : Nat} (hpos : 0 < base) (hbase : base ≤ 16)
    (h : n < base ^ count) : IsNumeral base (numeral base count n) n := by
  induction count generalizing n with
  | zero =>
      have hzero : n = 0 := by simpa using h
      exact ⟨[], .nil, by simp [hzero]⟩
  | succ count ih =>
      have hquotient : n / base < base ^ count := by
        rw [Nat.div_lt_iff_lt_mul hpos, ← Nat.pow_succ]
        exact h
      obtain ⟨values, hvalues, hn⟩ := ih hquotient
      refine ⟨values ++ [n % base], ?_, ?_⟩
      · apply List.rel_append hvalues
        exact .cons (isDigit_digitChar hbase (Nat.mod_lt n hpos)) .nil
      · rw [List.reverse_append, List.reverse_singleton, List.singleton_append, Nat.ofDigits_cons, hn]
        exact Nat.mod_add_div n base

end SwaggerGen.Text
