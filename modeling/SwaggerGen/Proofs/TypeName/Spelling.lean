import Mathlib.Data.List.Basic
import SwaggerGen.TypeName.Primitive

/-!
# Spellings of scalars

The type names that have a kind are the scalar names as they are, behind a star, and behind `[]`. What
remains of such a name without its `[]` has the kind of the scalar.
-/

namespace SwaggerGen

namespace Kind

/-- How a scalar may be spelled, and the kind of a type name that is spelled so. -/
inductive Spelling : String → Kind → Prop
  | bare {name : String} {kind : Kind} (h : ofScalar? name = some kind) : Spelling name kind
  | pointer {name : String} {kind : Kind} (h : ofScalar? name = some kind) :
      Spelling ("*" ++ name) kind
  | slice {name : String} {kind : Kind} (h : ofScalar? name = some kind) :
      Spelling ("[]" ++ name) sequence

def spellings : List String := scalars.flatMap fun (name, _) => [name, "*" ++ name, "[]" ++ name]

theorem undecorated_of_ofScalar? {name : String} {kind : Kind} (h : ofScalar? name = some kind) :
    '[' ∉ name.toList ∧ ']' ∉ name.toList ∧ '*' ∉ name.toList := by
  have hall : ∀ scalar ∈ scalars,
      '[' ∉ scalar.1.toList ∧ ']' ∉ scalar.1.toList ∧ '*' ∉ scalar.1.toList := by decide
  exact hall _ (mem_scalars h)

theorem ofScalar?_pointer (name : String) : ofScalar? ("*" ++ name) = none := by
  rw [Option.eq_none_iff_forall_ne_some]
  intro kind h
  exact (undecorated_of_ofScalar? h).2.2 (by simp)

theorem ofScalar?_slice (name : String) : ofScalar? ("[]" ++ name) = none := by
  rw [Option.eq_none_iff_forall_ne_some]
  intro kind h
  exact (undecorated_of_ofScalar? h).1 (by simp)

theorem ofTypeName_of_ofScalar? {name : String} {kind : Kind} (h : ofScalar? name = some kind) :
    ofTypeName name = kind := by
  rw [ofTypeName, h]

theorem ofTypeName_pointer (name : String) :
    ofTypeName ("*" ++ name) = (ofScalar? name).getD unresolved := by
  rw [ofTypeName, ofScalar?_pointer, String.toList_append]
  simp

theorem ofTypeName_slice (name : String) :
    ofTypeName ("[]" ++ name) = if (ofScalar? name).isSome then sequence else unresolved := by
  rw [ofTypeName, ofScalar?_slice, String.toList_append]
  simp

namespace Spelling

variable {typeName : String} {kind : Kind}

theorem ofTypeName_eq (h : Spelling typeName kind) : ofTypeName typeName = kind := by
  cases h with
  | bare h => exact ofTypeName_of_ofScalar? h
  | pointer h => rw [ofTypeName_pointer, h, Option.getD_some]
  | slice h => rw [ofTypeName_slice, h, Option.isSome_some, if_pos rfl]

theorem ne_unresolved (h : Spelling typeName kind) : kind ≠ unresolved := by
  cases h with
  | bare h | pointer h => exact fun heq => ofScalar?_ne_unresolved _ (heq ▸ h)
  | slice => exact nofun

end Spelling

theorem exists_ofScalar?_of_getD_ne {name : String} (h : (ofScalar? name).getD unresolved ≠ unresolved) :
    ∃ kind, ofScalar? name = some kind := by
  rw [← Option.ne_none_iff_exists']
  intro hnone
  rw [hnone] at h
  exact h rfl

/-- A type name with a kind is the spelling of a scalar. -/
theorem exists_spelling {typeName : String} (h : ofTypeName typeName ≠ unresolved) :
    ∃ kind, Spelling typeName kind := by
  rw [ofTypeName] at h
  split at h
  · next kind hscalar => exact ⟨kind, .bare hscalar⟩
  · -- behind the decoration stands a scalar name, or the kind would be unresolved
    split at h
    · next target htarget =>
        obtain ⟨kind, hscalar⟩ := exists_ofScalar?_of_getD_ne h
        have hname : typeName = "*" ++ String.ofList target := by
          simpa [← String.toList_inj] using htarget
        exact ⟨kind, hname ▸ .pointer hscalar⟩
    · next element helement =>
        split at h
        · next hscalar =>
            obtain ⟨kind, hscalar⟩ := Option.isSome_iff_exists.mp hscalar
            have hname : typeName = "[]" ++ String.ofList element := by
              simpa [← String.toList_inj] using helement
            exact ⟨sequence, hname ▸ .slice hscalar⟩
        · exact absurd rfl h
    · exact absurd rfl h

theorem ofScalar?_of_mem_scalars {scalar : String × Kind} (h : scalar ∈ scalars) :
    ofScalar? scalar.1 = some scalar.2 := by
  have hall : ∀ scalar ∈ scalars, ofScalar? scalar.1 = some scalar.2 := by decide
  exact hall scalar h

theorem mem_spellings_iff_exists_spelling {typeName : String} :
    typeName ∈ spellings ↔ ∃ kind, Spelling typeName kind := by
  rw [spellings, List.mem_flatMap]
  constructor
  · rintro ⟨scalar, hscalar, hname⟩
    have h := ofScalar?_of_mem_scalars hscalar
    simp only [List.mem_cons, List.not_mem_nil, or_false] at hname
    rcases hname with rfl | rfl | rfl
    · exact ⟨_, .bare h⟩
    · exact ⟨_, .pointer h⟩
    · exact ⟨_, .slice h⟩
  · rintro ⟨kind, hspelling⟩
    cases hspelling with
    | bare h | pointer h | slice h => exact ⟨_, mem_scalars h, by simp⟩

/-- A type name has a kind exactly if it spells a scalar. -/
theorem mem_spellings_iff {typeName : String} :
    typeName ∈ spellings ↔ ofTypeName typeName ≠ unresolved := by
  rw [mem_spellings_iff_exists_spelling]
  constructor
  · rintro ⟨kind, hspelling⟩
    rw [hspelling.ofTypeName_eq]
    exact hspelling.ne_unresolved
  · exact exists_spelling

end Kind

theorem dropSlices_eq_self {s : List Char} (h : '[' ∉ s) : dropSlices s = s := by
  induction s with
  | nil => rfl
  | cons c rest ih =>
      rw [List.mem_cons, not_or] at h
      rw [dropSlices, ih h.2]
      rintro tail rfl
      exact absurd rfl h.1

theorem elementName_eq_self {typeName : String} (h : '[' ∉ typeName.toList) :
    elementName typeName = typeName := by
  rw [elementName, dropSlices_eq_self h, String.ofList_toList]

theorem elementName_slice (name : String) : elementName ("[]" ++ name) = elementName name := by
  rw [elementName, String.toList_append]
  rfl

namespace Kind

def IsScalar (kind : Kind) : Prop := kind ≠ sequence ∧ kind ≠ unresolved

theorem isScalar_of_ofScalar? {name : String} {kind : Kind} (h : ofScalar? name = some kind) :
    kind.IsScalar :=
  ⟨fun heq => ofScalar?_ne_sequence name (heq ▸ h), fun heq => ofScalar?_ne_unresolved name (heq ▸ h)⟩

/-- Of the type names with a kind, those that begin with `[]` are the sequences. -/
theorem Spelling.eq_sequence_iff {typeName : String} {kind : Kind} (h : Spelling typeName kind) :
    kind = sequence ↔ ∃ element, typeName = "[]" ++ element := by
  cases h with
  | bare hname =>
      have hopen := (undecorated_of_ofScalar? hname).1
      constructor
      · exact fun hkind => absurd hkind (isScalar_of_ofScalar? hname).1
      · rintro ⟨element, rfl⟩
        exact absurd hopen (by simp)
  | pointer hname =>
      constructor
      · exact fun hkind => absurd hkind (isScalar_of_ofScalar? hname).1
      · rintro ⟨element, hslice⟩
        simp [← String.toList_inj] at hslice
  | slice hname => exact ⟨fun _ => ⟨_, rfl⟩, fun _ => rfl⟩

theorem ofTypeName_eq_sequence_iff (typeName : String) :
    ofTypeName typeName = sequence ↔
      ∃ element, typeName = "[]" ++ element ∧ (ofScalar? element).isSome := by
  constructor
  · intro h
    obtain ⟨kind, hspelling⟩ := exists_spelling (by rw [h]; decide)
    obtain ⟨element, rfl⟩ := hspelling.eq_sequence_iff.mp (hspelling.ofTypeName_eq.symm.trans h)
    refine ⟨element, rfl, ?_⟩
    by_contra hscalar
    rw [ofTypeName_slice, if_neg hscalar] at h
    cases h
  · rintro ⟨element, rfl, hscalar⟩
    rw [ofTypeName_slice, if_pos hscalar]

/-- The element of a spelled scalar has a kind, which is the kind of the spelling unless that is a
slice. -/
theorem Spelling.isScalar_elementName {typeName : String} {kind : Kind} (h : Spelling typeName kind) :
    (ofTypeName (elementName typeName)).IsScalar ∧
      (kind = ofTypeName (elementName typeName) ∨ kind = sequence) := by
  cases h with
  | bare h =>
      rw [elementName_eq_self (undecorated_of_ofScalar? h).1, ofTypeName_of_ofScalar? h]
      exact ⟨isScalar_of_ofScalar? h, .inl rfl⟩
  | pointer h =>
      have hplain := (undecorated_of_ofScalar? h).1
      rw [elementName_eq_self (by simpa using hplain), ofTypeName_pointer, h, Option.getD_some]
      exact ⟨isScalar_of_ofScalar? h, .inl rfl⟩
  | slice h =>
      rw [elementName_slice, elementName_eq_self (undecorated_of_ofScalar? h).1,
        ofTypeName_of_ofScalar? h]
      exact ⟨isScalar_of_ofScalar? h, .inr rfl⟩

theorem elementName_mem_spellings {typeName : String} (h : typeName ∈ spellings) :
    elementName typeName ∈ spellings := by
  obtain ⟨kind, hspelling⟩ := mem_spellings_iff_exists_spelling.mp h
  exact mem_spellings_iff.mpr hspelling.isScalar_elementName.1.2

end Kind

end SwaggerGen
