import SwaggerGen.Proofs.PathTemplate.Segments

/-!
# Marks hidden by earlier segments

The template of a path is right exactly when no mark can be read in an earlier segment as that one is
rewritten. In a path whose colons all stand at the front of a segment none can, since a rewritten segment
then has no colon at all.
-/

namespace SwaggerGen.PathTemplate

/-- Whether every colon of a path stands at the front of a segment. -/
def ColonsLead (path : List Char) : Prop := ∀ segment ∈ segments path, ':' ∉ segment.tail

instance (path : List Char) : Decidable (ColonsLead path) :=
  inferInstanceAs (Decidable (∀ segment ∈ segments path, ':' ∉ segment.tail))

/-- Exposure by positions: a segment that is a mark is hidden by no segment at an earlier position. -/
theorem pairwise_exposed_iff (parts : List (List Char)) :
    parts.Pairwise Exposed ↔
      ∀ (i : Nat) (hi : i < parts.length) (name : List Char), parts[i] = mark name →
        ∀ (j : Nat) (hj : j < i), ¬ mark name <:+: braceSegment parts[j] := by
  rw [List.pairwise_iff_getElem]
  constructor
  · intro h i hi name hname j hj
    exact h j i (Nat.lt_trans hj hi) hi hj name hname
  · intro h j i _ hi hj name hname
    exact h i hi name hname j hj

theorem colon_not_mem_braceSegment {segment : List Char} (h : ':' ∉ segment.tail) :
    ':' ∉ braceSegment segment := by
  cases hname : parameterName? segment with
  | some name =>
      rw [parameterName?_eq_some_iff] at hname
      subst hname
      exact not_mem_braced (by decide) (by decide) h
  | none =>
      rw [braceSegment_of_parameterName?_eq_none hname]
      cases segment with
      | nil => exact List.not_mem_nil
      | cons c rest =>
          have hc : ':' ≠ c := by
            rintro rfl
            cases hname
          exact List.not_mem_cons_of_ne_of_not_mem hc h

theorem ColonsLead.pairwise_exposed {path : List Char} (h : ColonsLead path) :
    (segments path).Pairwise Exposed := by
  refine List.pairwise_of_forall_mem_list fun earlier hearlier later _ name _ hread => ?_
  exact colon_not_mem_braceSegment (h earlier hearlier) (hread.subset List.mem_cons_self)

/-- The template of a path is its segments, each put in braces on its own, exactly when no segment that is
a mark can be read in the rewritten text of a segment at an earlier position. It is so in every path
whose colons all stand at the front of a segment. -/
theorem ofPath_eq_segmentwise_iff_forall_position (path : String) :
    (ofPath path = String.ofList (segmentwise path.toList) ↔
      ∀ (i : Nat) (hi : i < (segments path.toList).length) (name : List Char),
        (segments path.toList)[i] = mark name →
          ∀ (j : Nat) (hj : j < i),
            ¬ mark name <:+: braceSegment (segments path.toList)[j]) ∧
    (ColonsLead path.toList → ofPath path = String.ofList (segmentwise path.toList)) := by
  rw [ofPath, String.ofList_inj, braceMarks_eq_segmentwise_iff]
  exact ⟨pairwise_exposed_iff _, ColonsLead.pairwise_exposed⟩

/-- Repeated names, names that begin another name, and the empty name are put in braces in their own
places. -/
theorem ofPath_repeated_names :
    ColonsLead "/:a/:ab/:/:a".toList ∧
      ofPath "/:a/:ab/:/:a" = "/\x7ba\x7d/\x7bab\x7d/\x7b\x7d/\x7ba\x7d" := by
  have hlead : ColonsLead "/:a/:ab/:/:a".toList := by decide
  refine ⟨hlead, ((ofPath_eq_segmentwise_iff_forall_position "/:a/:ab/:/:a").2 hlead).trans ?_⟩
  decide

end SwaggerGen.PathTemplate
