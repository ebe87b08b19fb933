import SwaggerGen.Proofs.TypeName.Reading

/-!
# The types of parameters

A query or header parameter has the type of one element: its type name is read without the `[]` in it.
They are taken out in one pass, so brackets around a `[]` come together and are a `[]` then. This is the
one way for a slice to be left. Every other type name gives a parameter the primitive of a scalar, or the
stand-in for an unknown type.
-/

namespace SwaggerGen

/-- A number of `[]`, one behind the other. -/
def slices : Nat → List Char
  | 0 => []
  | n + 1 => '[' :: ']' :: slices n

theorem dropSlices_slices_append (n : Nat) (s : List Char) :
    dropSlices (slices n ++ s) = dropSlices s := by
  induction n with
  | zero => rfl
  | succ n ih => exact ih

theorem dropSlices_cons {c : Char} {s : List Char} (h : c = '[' → ∀ rest, s ≠ ']' :: rest) :
    dropSlices (c :: s) = c :: dropSlices s := by
  rw [dropSlices]
  rintro rest rfl
  exact h rfl rest

/-- What comes first of the characters that remain stands behind some `[]`, and does not begin one. -/
theorem exists_slices_of_dropSlices_eq_cons {s : List Char} {c : Char} {u : List Char}
    (h : dropSlices s = c :: u) :
    ∃ n tail, s = slices n ++ c :: tail ∧ dropSlices tail = u ∧
      (c = '[' → ∀ rest, tail ≠ ']' :: rest) := by
  fun_induction dropSlices s with
  | case1 rest ih =>
      obtain ⟨n, tail, rfl, htail⟩ := ih h
      exact ⟨n + 1, tail, rfl, htail⟩
  | case2 head rest hslice ih =>
      obtain ⟨rfl, rfl⟩ := List.cons.inj h
      exact ⟨0, rest, rfl, rfl, fun hopen tail htail => hslice tail hopen htail⟩
  | case3 => exact absurd h (by simp)

/-- The characters that remain begin with `[]` exactly if two brackets with some `[]` in between, and
nothing else, come first. -/
theorem dropSlices_eq_slice_cons_iff (s u : List Char) :
    dropSlices s = '[' :: ']' :: u ↔
      ∃ outer inner tail, s = slices outer ++ '[' :: (slices (inner + 1) ++ ']' :: tail) ∧
        dropSlices tail = u := by
  constructor
  · intro h
    obtain ⟨outer, behind, rfl, hbehind, hopen⟩ := exists_slices_of_dropSlices_eq_cons h
    obtain ⟨n, tail, rfl, htail, -⟩ := exists_slices_of_dropSlices_eq_cons hbehind
    -- with nothing in between, the two brackets would have been taken out
    cases n with
    | zero => exact absurd rfl (hopen rfl tail)
    | succ inner => exact ⟨outer, inner, tail, rfl, htail⟩
  · rintro ⟨outer, inner, tail, rfl, rfl⟩
    have hopen : ∀ rest, slices (inner + 1) ++ ']' :: tail ≠ ']' :: rest := by simp [slices]
    have hclose : (']' : Char) = '[' → ∀ rest, tail ≠ ']' :: rest := fun h => absurd h (by decide)
    rw [dropSlices_slices_append, dropSlices_cons fun _ => hopen, dropSlices_slices_append,
      dropSlices_cons hclose]

/-- Whether a type name holds a slice of a scalar that shows only without its `[]`: two brackets around
some `[]`, behind nothing but `[]`, and in front of what is a scalar without its `[]`. -/
def HidesSlice (typeName : String) : Prop :=
  ∃ outer inner element,
    typeName.toList = slices outer ++ '[' :: (slices (inner + 1) ++ ']' :: element) ∧
      (Kind.ofScalar? (String.ofList (dropSlices element))).isSome

theorem Kind.ofTypeName_elementName_eq_sequence_iff (typeName : String) :
    ofTypeName (elementName typeName) = sequence ↔ HidesSlice typeName := by
  have hslice (element : String) : elementName typeName = "[]" ++ element ↔
      dropSlices typeName.toList = '[' :: ']' :: element.toList := by
    simp [elementName, ← String.toList_inj]
  rw [ofTypeName_eq_sequence_iff]
  constructor
  · rintro ⟨element, helement, hscalar⟩
    obtain ⟨outer, inner, tail, hname, htail⟩ :=
      (dropSlices_eq_slice_cons_iff _ _).mp ((hslice element).mp helement)
    exact ⟨outer, inner, tail, hname, by rwa [htail, String.ofList_toList]⟩
  · rintro ⟨outer, inner, tail, hname, hscalar⟩
    refine ⟨_, (hslice _).mpr ?_, hscalar⟩
    rw [String.toList_ofList]
    exact (dropSlices_eq_slice_cons_iff _ _).mpr ⟨outer, inner, tail, hname, rfl⟩

/-- Whether a parameter has the primitive of a scalar, or the stand-in for an unknown type. -/
def Parameter.Typed (p : Parameter) : Prop :=
  p.primitive ∈ Primitive.scalars ∨ p.primitive = ⟨"invalid", "UNKNOWN"⟩

namespace Member

variable (m : Member) (location : Location) (tag : Tag)

theorem primitive_parameter_of_sequence (h : Kind.ofTypeName (elementName m.typeName) = .sequence) :
    (m.parameter location tag).primitive = ⟨elementName m.typeName, ""⟩ := by
  rw [primitive_parameter, h]
  rfl

theorem typed_parameter_iff :
    (m.parameter location tag).Typed ↔ Kind.ofTypeName (elementName m.typeName) ≠ .sequence := by
  constructor
  · intro htyped hkind
    obtain ⟨element, hname, -⟩ := (Kind.ofTypeName_eq_sequence_iff _).mp hkind
    rw [Parameter.Typed, primitive_parameter_of_sequence m location tag hkind, hname] at htyped
    -- no type word begins with a bracket
    simp [Primitive.scalars, ← String.toList_inj] at htyped
  · intro hkind
    rw [Parameter.Typed, primitive_parameter]
    by_cases hunresolved : Kind.ofTypeName (elementName m.typeName) = .unresolved
    · right
      rw [hunresolved]
      rfl
    · left
      exact Primitive.ofKindOrUnknown_mem_scalars ⟨hkind, hunresolved⟩ _ _

theorem typed_iff_of_mem_requestParameters {m : Member} {requestName : String} {p : Parameter}
    (hp : p ∈ m.requestParameters requestName) (hlocation : p.location = .query ∨ p.location = .header) :
    (p.Typed ↔ ¬ HidesSlice m.typeName) ∧
      (HidesSlice m.typeName → p.primitive = ⟨elementName m.typeName, ""⟩) := by
  have hparameter (location : Location) (tag : Tag) :
      ((m.parameter location tag).Typed ↔ ¬ HidesSlice m.typeName) ∧
        (HidesSlice m.typeName →
          (m.parameter location tag).primitive = ⟨elementName m.typeName, ""⟩) := by
    rw [← Kind.ofTypeName_elementName_eq_sequence_iff]
    exact ⟨m.typed_parameter_iff location tag, m.primitive_parameter_of_sequence location tag⟩
  rcases mem_requestParameters hp with ⟨tag, rfl⟩ | ⟨tag, rfl⟩ | ⟨-, -, -, rfl⟩
  · exact hparameter .query tag
  · exact hparameter .header tag
  · simp [Parameter.ofBody] at hlocation

end Member

namespace StructType

def formField (typeName : String) : Member := ⟨"Names", typeName, "form:\"names\"", ""⟩

/-- A request struct with a form field of the given type name. -/
def formRequest (typeName : String) : StructType := ⟨"Search", [formField typeName]⟩

theorem requestParameters_formRequest (typeName : String) :
    (formRequest typeName).requestParameters =
      [(formField typeName).parameter .query ⟨"form", "names", []⟩] := by
  have htags : (formField typeName).tags = [⟨"form", "names", []⟩] := by
    change Tag.ofText "form:\"names\"" = _
    decide
  simp [requestParameters, formRequest, Member.requestParameters, Member.hasTag, Member.tag?, htags,
    Tag.pathKey, Tag.formKey, Tag.headerKey, Tag.jsonKey]

/-- A type name is read as a slice for a parameter exactly if it hides one. Each query or header parameter
of a request struct has the primitive of a scalar, or the stand-in for an unknown type, exactly if the type
name of its member hides no slice; otherwise that slice is its type word. -/
theorem typed_requestParameters_iff (type : StructType) :
    (∀ typeName, Kind.ofTypeName (elementName typeName) = .sequence ↔ HidesSlice typeName) ∧
      ∀ p ∈ type.requestParameters, p.location = .query ∨ p.location = .header →
        ∃ m ∈ type.members, p ∈ m.requestParameters type.name ∧
          (p.Typed ↔ ¬ HidesSlice m.typeName) ∧
          (HidesSlice m.typeName → p.primitive = ⟨elementName m.typeName, ""⟩) := by
  refine ⟨Kind.ofTypeName_elementName_eq_sequence_iff, fun p hp hlocation => ?_⟩
  obtain ⟨m, hm, hp⟩ := List.mem_flatMap.mp hp
  exact ⟨m, hm, hp, Member.typed_iff_of_mem_requestParameters hp hlocation⟩

/-- Slices of slices are read as their elements: a parameter of type `[][]int64` is a number. -/
theorem typed_formRequest_slices :
    ∃ p ∈ (formRequest "[][]int64").requestParameters, p.location = .query ∧ p.Typed ∧
      p.primitive = ⟨"integer", "int64"⟩ := by
  obtain ⟨hsequence, hparameters⟩ := typed_requestParameters_iff (formRequest "[][]int64")
  rw [requestParameters_formRequest] at hparameters ⊢
  obtain ⟨m, hm, -, htyped, -⟩ := hparameters _ List.mem_cons_self (.inl rfl)
  obtain rfl := List.mem_singleton.mp hm
  have hshown : ¬ HidesSlice "[][]int64" := by
    rw [← hsequence]
    decide
  exact ⟨_, List.mem_cons_self, rfl, htyped.mpr hshown, by decide⟩

/-- The brackets of `[[]]string` come together to the slice `[]string`, which is no type of a parameter. -/
theorem not_forall_typed :
    (¬ ∀ typeName, Kind.ofTypeName (elementName typeName) ≠ .sequence) ∧
      ¬ ∀ (type : StructType), ∀ p ∈ type.requestParameters,
        p.location = .query ∨ p.location = .header → p.Typed := by
  have hkind : Kind.ofTypeName (elementName "[[]]string") = .sequence := by decide
  refine ⟨fun h => h "[[]]string" hkind, fun h => ?_⟩
  have hparameters := h (formRequest "[[]]string")
  rw [requestParameters_formRequest] at hparameters
  have htyped := hparameters _ List.mem_cons_self (.inl rfl)
  exact (Member.typed_parameter_iff _ _ _).mp htyped hkind

end StructType

end SwaggerGen
