import SwaggerGen.Proofs.Yaml.Quoted

/-!
# Scalars read back

A string is read back from its scalar, whichever of the four styles that has. What is written plain is
not taken for a null, a truth value or a number, and a block keeps the breaks at its end.
-/

namespace SwaggerGen.Yaml

/-- What follows a scalar: the end of its line, or the colon of a key. -/
inductive EndsScalar : List Char → Prop where
  | line (rest : List Char) : EndsScalar ('\n' :: rest)
  | colon {rest : List Char} (h : endsToken rest = true) : EndsScalar (':' :: rest)

theorem EndsScalar.plainRun {rest : List Char} (h : EndsScalar rest) : plainRun rest = ([], rest) := by
  cases h with
  | line rest => rfl
  | colon h => rw [Yaml.plainRun, if_pos (by simp [h])]

theorem EndsScalar.head_ne {rest : List Char} (h : EndsScalar rest) {c : Char} (hfeed : c ≠ '\n')
    (hcolon : c ≠ ':') : rest.head? ≠ some c := by
  cases h with
  | line rest => exact fun heq => hfeed (Option.some.inj heq).symm
  | colon h => exact fun heq => hcolon (Option.some.inj heq).symm

section Plain

variable {s rest : List Char}

theorem isPrefixOf_append {marks : List Char} (h : ∀ c ∈ marks, rest.head? ≠ some c) (s : List Char) :
    marks.isPrefixOf (s ++ rest) = marks.isPrefixOf s := by
  induction marks generalizing s with
  | nil => simp
  | cons mark marks ih =>
      rw [List.forall_mem_cons] at h
      cases s with
      | nil =>
          cases rest with
          | nil => rfl
          | cons c rest => exact isPrefixOf_eq_false (fun heq => h.1 (congrArg some heq)) marks rest
      | cons c s => exact congrArg ((mark == c) && ·) (ih h.2 s)

theorem isBlankOrBreak_of_isPrintable {c : Char} (h : isPrintable c = true) :
    isBlankOrBreak c = (c == ' ' || isBreak c) := by
  have htab : c ≠ '\t' := by rintro rfl; revert h; decide
  have hnull : c ≠ '\x00' := by rintro rfl; revert h; decide
  rw [isBlankOrBreak, beq_eq_false_iff_ne.mpr htab, beq_eq_false_iff_ne.mpr hnull, Bool.or_false,
    Bool.or_false]

/-- A text that begins like a plain scalar does so with what follows it. -/
theorem startsIndicator_append (hrest : EndsScalar rest) {c : Char}
    (h : startsIndicator (c :: s) = false) : startsIndicator (c :: s ++ rest) = false := by
  have hdash : rest.head? ≠ some '-' := hrest.head_ne (by decide) (by decide)
  have hdot : rest.head? ≠ some '.' := hrest.head_ne (by decide) (by decide)
  rw [startsIndicator.eq_def] at h ⊢
  rw [isPrefixOf_append (by simpa using hdash), isPrefixOf_append (by simpa using hdot)]
  simp only [Bool.or_eq_false_iff, Bool.and_eq_false_iff, List.cons_append] at h ⊢
  obtain ⟨hmarks, hindicator, htoken⟩ := h
  refine ⟨hmarks, hindicator, ?_⟩
  rcases htoken with hnot | htoken
  · exact .inl hnot
  · cases s with
    | nil => cases htoken
    | cons d s => exact .inr htoken

theorem plainRun_append (hrest : EndsScalar rest) (hbreak : ∀ c ∈ s, isBreak c = false)
    (hcolon : hasMappingColon s = false) (hcomment : hasPair isBlankOrBreak (· == '#') s = false)
    (hlast : s.getLast? ≠ some ' ') : plainRun (s ++ rest) = (s, rest) := by
  induction s with
  | nil => exact hrest.plainRun
  | cons c s ih =>
      rw [List.forall_mem_cons] at hbreak
      rw [hasMappingColon, Bool.or_eq_false_iff] at hcolon
      obtain ⟨hcomment, hcomments⟩ := hasPair_cons hcomment
      have hgoes : (isBreak c || (c == ':' && endsToken (s ++ rest)) ||
          (c == ' ' && (s ++ rest).head? == some '#')) = false := by
        cases s with
        | nil =>
            have hspace : c ≠ ' ' := fun heq => hlast (congrArg some heq)
            have hend : (c == ':') = false := by simpa [endsToken] using hcolon.1
            simp [hbreak.1, hend, hspace]
        | cons d s =>
            have hends : endsToken (d :: s ++ rest) = endsToken (d :: s) := rfl
            rw [hbreak.1, hends, hcolon.1, Bool.false_or, Bool.false_or, Bool.and_eq_false_imp]
            intro hspace
            simpa using hcomment (by simp [beq_iff_eq.mp hspace, isBlankOrBreak])
      have hlasts : s.getLast? ≠ some ' ' := fun heq => hlast (by simp [List.getLast?_cons, heq])
      rw [List.cons_append, plainRun, if_neg (Bool.eq_false_iff.mp hgoes),
        ih hbreak.2 hcolon.2 hcomments hlasts]

/-- A plain scalar is read as what it stands for. -/
theorem readPlain_append (hrest : EndsScalar rest) (hplain : allowsPlain s = true) (hne : s ≠ []) :
    readPlain (s ++ rest) = some (resolve s, rest) ∧ startsIndicator (s ++ rest) = false := by
  obtain ⟨c, t, rfl⟩ := List.exists_cons_of_ne_nil hne
  simp only [allowsPlain, Bool.and_eq_true, List.all_eq_true, Bool.not_eq_true', bne_iff_ne] at hplain
  obtain ⟨⟨⟨⟨⟨hall, hhead⟩, hlast⟩, hindicator⟩, hcolon⟩, hcomment⟩ := hplain
  have hbreak : ∀ d ∈ c :: t, isBreak d = false := fun d hd => (hall d hd).2
  have hstart := startsIndicator_append hrest hindicator
  have hends : endsToken (c :: t ++ rest) = false := by
    have hspace : c ≠ ' ' := fun heq => hhead (congrArg some heq)
    have hblank := isBlankOrBreak_of_isPrintable (hall c List.mem_cons_self).1
    rw [hbreak c List.mem_cons_self, Bool.or_false, beq_eq_false_iff_ne.mpr hspace] at hblank
    exact hblank
  have htrim : (c :: t).rdropWhile (· == ' ') = c :: t := by
    rw [List.rdropWhile_eq_self_iff]
    intro _ hspace
    rw [List.getLast?_eq_some_getLast hne] at hlast
    exact hlast (congrArg some (beq_iff_eq.mp hspace))
  rw [readPlain, hends, hstart, plainRun_append hrest hbreak hcolon hcomment hlast, htrim]
  exact ⟨rfl, rfl⟩

theorem readToken_eq_readPlain (h : startsIndicator s = false) : readToken s = readPlain s := by
  have hhead {c : Char} {t : List Char} (heq : s = c :: t)
      (hmark : "#,[]\x7b\x7d&*!|>'\"%@`".toList.contains c = true) : False := by
    rw [heq, startsIndicator.eq_def] at h
    simp only [hmark, Bool.true_or, Bool.or_true, Bool.true_eq_false] at h
  unfold readToken
  split
  · exact (hhead rfl (by decide)).elim
  · exact (hhead rfl (by decide)).elim
  · exact (hhead rfl (by decide)).elim
  · exact (hhead rfl (by decide)).elim
  · rfl

theorem readToken_plain (hrest : EndsScalar rest) (hplain : allowsPlain s = true) (hne : s ≠ []) :
    readToken (s ++ rest) = some (resolve s, rest) := by
  obtain ⟨hread, hstart⟩ := readPlain_append hrest hplain hne
  rw [readToken_eq_readPlain hstart, hread]

end Plain

/-- A string that is not ambiguous is not resolved to anything else. -/
theorem resolve_of_not_isAmbiguous {s : List Char} (h : isAmbiguous s = false) :
    resolve s = .string (String.ofList s) := by
  simp only [isAmbiguous, Bool.or_eq_false_iff] at h
  obtain ⟨⟨⟨⟨hnull, hboolean⟩, hinteger⟩, hfloat⟩, -⟩ := h
  simp only [resolve, hnull, hboolean, hinteger, hfloat, Bool.false_eq_true, if_false]

theorem ne_nil_of_not_isAmbiguous {s : List Char} (h : isAmbiguous s = false) : s ≠ [] := by
  rintro rfl
  exact absurd h (by decide)

theorem readString_of_readQuoted {part : List Char → Option Part} {s t rest : List Char}
    (h : readQuoted part 0 (.spaces 0) t = some (spaces 0 ++ s, rest)) :
    readString part t = some (.string (String.ofList s), rest) := by
  rw [readString, h]
  rfl

/-- A scalar that is not a block is read up to its end. -/
theorem readToken_scalar {indent : Nat} (hindent : 0 < indent) {s rest : List Char}
    (hstyle : Style.ofText s ≠ .literal) (hrest : EndsScalar rest) :
    readToken (scalar indent s ++ rest) = some (.string (String.ofList s), rest) := by
  rw [scalar]
  cases hs : Style.ofText s with
  | plain =>
      obtain ⟨hambiguous, hplain, -⟩ := Style.of_plain hs
      rw [← resolve_of_not_isAmbiguous hambiguous]
      exact readToken_plain hrest hplain (ne_nil_of_not_isAmbiguous hambiguous)
  | single =>
      obtain ⟨hsingle, hfeed⟩ := Style.of_single hs
      simp only [allowsSingle, Bool.and_eq_true, Bool.not_eq_true'] at hsingle
      have hquote : rest.head? ≠ some '\'' := hrest.head_ne (by decide) (by decide)
      have hbody := (readsSingle hindent hquote hfeed hsingle.1.2 hsingle.2).behindSpaces 0
        fun hlt => absurd hlt (Nat.lt_irrefl 0)
      have hread := readString_of_readQuoted hbody
      simpa [readToken] using hread
  | double =>
      have hread := readString_of_readQuoted (readQuoted_double s rest 0)
      simpa [readToken] using hread
  | literal => exact absurd hs hstyle

end SwaggerGen.Yaml
