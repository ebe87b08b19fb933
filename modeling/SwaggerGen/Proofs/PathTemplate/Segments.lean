import Mathlib.Data.List.Infix
import SwaggerGen.Parameter.Request
import SwaggerGen.Proofs.Text.Replace

/-!
# Templates by segments

The template of a path is its segments, each put in braces on its own, exactly when no mark occurs in
an earlier segment as that one is rewritten. A mark that does takes its braces there, and the earlier
segment ends up with fewer colons than it should have.
-/

namespace SwaggerGen.PathTemplate

/-- The text that marks a parameter. -/
def mark (name : List Char) : List Char := ':' :: name

theorem parameterName?_eq_some_iff (segment name : List Char) :
    parameterName? segment = some name ↔ segment = mark name := by
  unfold parameterName?
  split <;> simp_all [mark]

theorem braceSegment_mark (name : List Char) : braceSegment (mark name) = braced name := rfl

theorem braceSegment_of_parameterName?_eq_none {segment : List Char}
    (h : parameterName? segment = none) : braceSegment segment = segment := by
  rw [braceSegment, h]

theorem not_mem_braced {c : Char} {name : List Char} (hopen : c ≠ '{') (hclose : c ≠ '}')
    (h : c ∉ name) : c ∉ braced name := by
  simp [braced, hopen, hclose, h]

theorem slash_not_mem_of_mem_segments {path segment : List Char} (h : segment ∈ segments path) :
    '/' ∉ segment :=
  Text.not_mem_of_mem_splitOn h

theorem slash_not_mem_of_mem_parameterNames {path name : List Char} (h : name ∈ parameterNames path) :
    '/' ∉ name := by
  obtain ⟨segment, hsegment, hname⟩ := List.mem_filterMap.mp h
  rw [parameterName?_eq_some_iff] at hname
  have hslash := slash_not_mem_of_mem_segments hsegment
  rw [hname, mark, List.mem_cons, not_or] at hslash
  exact hslash.2

/-- Puts a mark in braces where it first occurs among segments. -/
def braceFirst (segments : List (List Char)) (name : List Char) : List (List Char) :=
  Text.replaceInFirst (mark name) (braced name) segments

theorem braceMark_intercalate (segments : List (List Char)) (name : List Char) (h : '/' ∉ name) :
    braceMark (['/'].intercalate segments) name = ['/'].intercalate (braceFirst segments name) := by
  have hmark : '/' ∉ mark name := by simp [mark, h]
  exact Text.replaceFirst_intercalate (List.cons_ne_nil _ _) hmark _ segments

theorem foldl_braceMark_intercalate (names segments : List (List Char))
    (h : ∀ name ∈ names, '/' ∉ name) :
    names.foldl braceMark (['/'].intercalate segments) =
      ['/'].intercalate (names.foldl braceFirst segments) := by
  induction names generalizing segments with
  | nil => rfl
  | cons name rest ih =>
      rw [List.foldl_cons, List.foldl_cons, braceMark_intercalate segments name (h name (by simp))]
      exact ih _ fun other hmem => h other (List.mem_cons_of_mem _ hmem)

theorem braceMarks_eq_intercalate (path : List Char) :
    braceMarks path = ['/'].intercalate ((parameterNames path).foldl braceFirst (segments path)) := by
  have hpath : ['/'].intercalate (segments path) = path := List.intercalate_splitOn '/'
  rw [braceMarks, ← foldl_braceMark_intercalate, hpath]
  exact fun name hmem => slash_not_mem_of_mem_parameterNames hmem

/-- Segments without slashes; there is at least one. -/
structure AreSegments (segments : List (List Char)) : Prop where
  ne_nil : segments ≠ []
  slash_not_mem : ∀ segment ∈ segments, '/' ∉ segment

theorem areSegments_segments (path : List Char) : AreSegments (segments path) where
  ne_nil := List.splitOn_ne_nil '/' path
  slash_not_mem _ hmem := slash_not_mem_of_mem_segments hmem

theorem AreSegments.intercalate_inj {a b : List (List Char)} (ha : AreSegments a)
    (hb : AreSegments b) : ['/'].intercalate a = ['/'].intercalate b ↔ a = b := by
  constructor
  · intro h
    rw [← List.splitOn_intercalate '/' ha.slash_not_mem ha.ne_nil, h,
      List.splitOn_intercalate '/' hb.slash_not_mem hb.ne_nil]
  · exact congrArg _

theorem AreSegments.braceFirst {segments : List (List Char)} (h : AreSegments segments)
    {name : List Char} (hname : '/' ∉ name) : AreSegments (braceFirst segments name) where
  ne_nil := Text.replaceInFirst_ne_nil _ _ h.ne_nil
  slash_not_mem := by
    have hbraced := not_mem_braced (by decide) (by decide) hname
    exact Text.not_mem_replaceInFirst hbraced h.slash_not_mem

theorem AreSegments.foldl_braceFirst {segments : List (List Char)} (h : AreSegments segments)
    {names : List (List Char)} (hnames : ∀ name ∈ names, '/' ∉ name) :
    AreSegments (names.foldl PathTemplate.braceFirst segments) := by
  induction names generalizing segments with
  | nil => exact h
  | cons name rest ih =>
      have hfirst := h.braceFirst (hnames name (by simp))
      exact ih hfirst fun other hmem => hnames other (List.mem_cons_of_mem _ hmem)

theorem AreSegments.map_braceSegment {segments : List (List Char)} (h : AreSegments segments) :
    AreSegments (segments.map braceSegment) where
  ne_nil := by simpa using h.ne_nil
  slash_not_mem := by
    intro segment hmem
    obtain ⟨original, horiginal, rfl⟩ := List.mem_map.mp hmem
    have hslash := h.slash_not_mem original horiginal
    cases hname : parameterName? original with
    | none => rwa [braceSegment_of_parameterName?_eq_none hname]
    | some name =>
        rw [parameterName?_eq_some_iff] at hname
        subst hname
        exact not_mem_braced (by decide) (by decide) fun h => hslash (List.mem_cons_of_mem _ h)

theorem count_colon_braced (name : List Char) : (braced name).count ':' = name.count ':' := by
  simp [braced]

/-- The colons of the first segments: one fewer when the mark is found there, and else as many. -/
theorem count_take_braceFirst (segments : List (List Char)) (name : List Char) (n : Nat) :
    ((braceFirst segments name).take n).flatten.count ':' +
        (if ∃ s ∈ segments.take n, mark name <:+: s then 1 else 0) =
      (segments.take n).flatten.count ':' := by
  induction segments generalizing n with
  | nil => simp [braceFirst, Text.replaceInFirst]
  | cons segment rest ih =>
      cases n with
      | zero => simp
      | succ n =>
          have hrest := ih n
          rw [braceFirst, Text.replaceInFirst]
          split
          · next h =>
              have hcount := Text.count_replaceFirst (braced name) ':' h
              rw [count_colon_braced, mark, List.count_cons_self] at hcount
              rw [if_pos ⟨segment, by simp, h⟩]
              simp only [List.take_succ_cons, List.flatten_cons, List.count_append]
              rw [mark]
              omega
          · next h =>
              simp only [List.take_succ_cons, List.flatten_cons, List.count_append,
                List.exists_mem_cons_iff, h, false_or]
              rw [braceFirst] at hrest
              omega

theorem count_take_foldl_braceFirst_le (names segments : List (List Char)) (n : Nat) :
    ((names.foldl braceFirst segments).take n).flatten.count ':' ≤
      (segments.take n).flatten.count ':' := by
  induction names generalizing segments with
  | nil => exact Nat.le_refl _
  | cons name rest ih =>
      have hstep := count_take_braceFirst segments name n
      have hrest := ih (braceFirst segments name)
      rw [List.foldl_cons]
      omega

/-- A later segment, if it is a mark, does not occur in an earlier one as that one is rewritten. -/
def Exposed (earlier later : List Char) : Prop :=
  ∀ name, later = mark name → ¬ mark name <:+: braceSegment earlier

theorem exposed_of_parameterName?_eq_none (earlier : List Char) {later : List Char}
    (h : parameterName? later = none) : Exposed earlier later := by
  intro name hname
  rw [← parameterName?_eq_some_iff, h] at hname
  cases hname

theorem exposed_mark_iff (earlier name : List Char) :
    Exposed earlier (mark name) ↔ ¬ mark name <:+: braceSegment earlier := by
  constructor
  · exact fun h => h name rfl
  · intro h other hother
    cases hother
    exact h

instance (earlier later : List Char) : Decidable (Exposed earlier later) :=
  match h : parameterName? later with
  | none => .isTrue (exposed_of_parameterName?_eq_none earlier h)
  | some name =>
      decidable_of_iff (¬ mark name <:+: braceSegment earlier) <|
        (parameterName?_eq_some_iff later name).mp h ▸ (exposed_mark_iff earlier name).symm

/-- A mark that occurs in no segment before its own gets its braces there. -/
theorem braceFirst_append_mark {done : List (List Char)} {name : List Char}
    (h : ∀ s ∈ done, ¬ mark name <:+: s) (rest : List (List Char)) :
    braceFirst (done ++ mark name :: rest) name = done ++ braced name :: rest := by
  have hself : Text.replaceFirst (mark name) (braced name) (mark name) = braced name := by
    simpa using Text.replaceFirst_append (mark name) (braced name) []
  rw [braceFirst, Text.replaceInFirst_append_right _ _ h, Text.replaceInFirst,
    if_pos (List.infix_refl _), hself]

/-- A mark that is spent on one of the first segments takes a colon from them, and no later mark puts
it back. -/
theorem take_foldl_braceFirst_ne {done : List (List Char)} {name : List Char}
    (h : ∃ s ∈ done, mark name <:+: s) (rest names : List (List Char)) :
    (names.foldl braceFirst (braceFirst (done ++ rest) name)).take done.length ≠ done := by
  intro heq
  have hstep := count_take_braceFirst (done ++ rest) name done.length
  have hlater := count_take_foldl_braceFirst_le names (braceFirst (done ++ rest) name) done.length
  rw [List.take_left, if_pos h] at hstep
  rw [heq] at hlater
  omega

/-- Behind segments that are in braces already, the marks of the others find their own places exactly
when they are exposed. -/
theorem foldl_braceFirst_eq_iff (before rest : List (List Char)) :
    (rest.filterMap parameterName?).foldl braceFirst (before.map braceSegment ++ rest) =
        (before ++ rest).map braceSegment ↔
      (∀ earlier ∈ before, ∀ later ∈ rest, Exposed earlier later) ∧ rest.Pairwise Exposed := by
  induction rest generalizing before with
  | nil => simp
  | cons segment rest ih =>
      have ih := ih (before ++ [segment])
      have hnext (h : ∀ earlier ∈ before, Exposed earlier segment) :
          (∀ earlier ∈ before ++ [segment], ∀ later ∈ rest, Exposed earlier later) ∧
              rest.Pairwise Exposed ↔
            (∀ earlier ∈ before, ∀ later ∈ segment :: rest, Exposed earlier later) ∧
              (segment :: rest).Pairwise Exposed := by
        simp only [List.mem_append, List.mem_cons, List.pairwise_cons, or_imp, forall_and,
          forall_eq]
        tauto
      cases hname : parameterName? segment with
      | none =>
          have hexposed : ∀ earlier ∈ before, Exposed earlier segment :=
            fun earlier _ => exposed_of_parameterName?_eq_none earlier hname
          rw [← hnext hexposed, List.filterMap_cons_none hname, ← ih]
          simp [braceSegment_of_parameterName?_eq_none hname]
      | some name =>
          rw [List.filterMap_cons_some hname, List.foldl_cons]
          rw [parameterName?_eq_some_iff] at hname
          subst hname
          by_cases hexposed : ∀ earlier ∈ before, Exposed earlier (mark name)
          · have hfree : ∀ s ∈ before.map braceSegment, ¬ mark name <:+: s := by
              intro s hs
              obtain ⟨earlier, hearlier, rfl⟩ := List.mem_map.mp hs
              exact (exposed_mark_iff earlier name).mp (hexposed earlier hearlier)
            rw [← hnext hexposed, ← ih, braceFirst_append_mark hfree]
            simp [braceSegment_mark]
          · have hspent : ∃ s ∈ before.map braceSegment, mark name <:+: s := by
              by_contra hnone
              refine hexposed fun earlier hearlier => (exposed_mark_iff earlier name).mpr fun h => ?_
              exact hnone ⟨_, List.mem_map_of_mem hearlier, h⟩
            have hne := take_foldl_braceFirst_ne hspent (mark name :: rest)
              (rest.filterMap parameterName?)
            refine iff_of_false (fun heq => hne ?_) fun h => hexposed fun earlier hearlier =>
              h.1 earlier hearlier _ List.mem_cons_self
            rw [heq, List.map_append, List.take_left]

theorem braceMarks_eq_segmentwise_iff (path : List Char) :
    braceMarks path = segmentwise path ↔ (segments path).Pairwise Exposed := by
  have hsegments := areSegments_segments path
  have hnames : ∀ name ∈ parameterNames path, '/' ∉ name :=
    fun name hmem => slash_not_mem_of_mem_parameterNames hmem
  have hfold := hsegments.foldl_braceFirst hnames
  rw [braceMarks_eq_intercalate, segmentwise, hfold.intercalate_inj hsegments.map_braceSegment,
    parameterNames]
  simpa using foldl_braceFirst_eq_iff [] (segments path)

/-- The parameters of a path are those of its marks, in their order. -/
theorem forall₂_parameters (path : String) :
    List.Forall₂ (fun segment p => segment = mark p.name.toList ∧ p.location = .path ∧
        p.required = true ∧ p.type = "string")
      ((segments path.toList).filter fun segment => segment.head? = some ':') (parameters path) := by
  rw [parameters, parameterNames]
  induction segments path.toList with
  | nil => exact .nil
  | cons segment rest ih =>
      cases hname : parameterName? segment with
      | none =>
          have hhead : segment.head? ≠ some ':' := by
            intro hcolon
            obtain ⟨name, rfl⟩ := List.head?_eq_some_iff.mp hcolon
            cases hname
          rw [List.filterMap_cons_none hname]
          simpa [hhead] using ih
      | some name =>
          rw [List.filterMap_cons_some hname, List.map_cons]
          rw [parameterName?_eq_some_iff] at hname
          subst hname
          refine .cons ⟨?_, rfl, rfl, rfl⟩ ih
          rw [Parameter.ofPath, String.toList_ofList]

/-- The template of a path is its segments, each put in braces on its own, exactly when each mark is
exposed to the segments before it. Whatever the template is, the parameters are those of the marks. -/
theorem ofPath_eq_segmentwise_iff_exposed (path : String) :
    (ofPath path = String.ofList (segmentwise path.toList) ↔
      (segments path.toList).Pairwise Exposed) ∧
    List.Forall₂ (fun segment p => segment = mark p.name.toList ∧ p.location = .path ∧
        p.required = true ∧ p.type = "string")
      ((segments path.toList).filter fun segment => segment.head? = some ':')
      (parameters path) := by
  refine ⟨?_, forall₂_parameters path⟩
  rw [ofPath, String.ofList_inj]
  exact braceMarks_eq_segmentwise_iff path.toList

/-- A mark that an earlier segment ends with gets its braces there. -/
theorem not_forall_ofPath_eq_segmentwise :
    ¬ ∀ path, ofPath path = String.ofList (segmentwise path.toList) := by
  intro h
  have htemplate : ofPath "/c:x/:x" = "/c\x7bx\x7d/:x" := by decide
  have hsegmentwise : String.ofList (segmentwise "/c:x/:x".toList) = "/c:x/\x7bx\x7d" := by decide
  have heq := h "/c:x/:x"
  rw [htemplate, hsegmentwise] at heq
  exact absurd heq (by decide)

end SwaggerGen.PathTemplate
