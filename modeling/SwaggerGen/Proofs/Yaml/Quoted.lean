import SwaggerGen.Proofs.Yaml.Printable
import SwaggerGen.Proofs.Yaml.Reader

/-!
# Quoted scalars

The inside of quotes is read back. In double quotes every character stands for itself or is an escape. In
single quotes a string may go over several lines at the breaks that are kept, with the spaces of the
indentation taken away again.
-/

namespace SwaggerGen.Yaml

section Steps

variable {part : List Char → Option Part} {gap : Gap} {rest : List Char}

/-- What a part covers is passed over. -/
theorem readQuoted_covered (covered : List Char) :
    readQuoted part covered.length gap (covered ++ rest) = readQuoted part 0 gap rest := by
  induction covered with
  | nil => rfl
  | cons c covered ih => exact ih

/-- The text of a character in front is read as the character, behind what the gap stands for. -/
theorem readQuoted_character {c d : Char} {covered : List Char}
    (h : part (c :: covered ++ rest) = some (.character d (c :: covered).length)) :
    readQuoted part 0 gap (c :: covered ++ rest) =
      (readQuoted part 0 (.spaces 0) rest).map fun r => (gap.text ++ d :: r.1, r.2) := by
  rw [List.cons_append] at h ⊢
  simp only [readQuoted, h, List.length_cons, Nat.add_sub_cancel, readQuoted_covered]

theorem readQuoted_space (h : part (' ' :: rest) = some .space) :
    readQuoted part 0 gap (' ' :: rest) = readQuoted part 0 gap.addSpace rest := by
  simp only [readQuoted, h]

theorem readQuoted_lineBreak {c : Char} (h : part (c :: rest) = some (.lineBreak c)) :
    readQuoted part 0 gap (c :: rest) = readQuoted part 0 (gap.addBreak c) rest := by
  simp only [readQuoted, h]

theorem readQuoted_close {c : Char} (h : part (c :: rest) = some .close) :
    readQuoted part 0 gap (c :: rest) = some (gap.text, rest) := by
  simp only [readQuoted, h]

end Steps

theorem spaces_succ_append (count : Nat) (s : List Char) :
    spaces (count + 1) ++ s = spaces count ++ ' ' :: s := by
  rw [spaces, List.replicate_succ', List.append_assoc]
  rfl

theorem hexChar?_append {c : Char} {count : Nat} {digits : List Char} (hlength : digits.length = count)
    (hnumber : Text.number? 16 digits = some c.toNat) (rest : List Char) :
    hexChar? count (digits ++ rest) = some c := by
  have htake : (digits ++ rest).take count = digits := List.take_left' hlength
  have hvalid : c.toNat.isValidChar := c.valid
  rw [hexChar?, Text.leadingNumber?, htake, if_pos hlength, hnumber, Option.bind_some,
    if_pos hvalid, Char.ofNat_toNat]

theorem escapePart_byte {c : Char} (h : c.toNat < 0x100) (rest : List Char) :
    escapePart ('x' :: upperHex 2 c.toNat ++ rest) = some (.character c 4) := by
  obtain ⟨hlength, hnumber, -⟩ := upperHex_byte c.toNat h
  rw [List.cons_append, escapePart, hexChar?_append hlength hnumber]
  rfl

theorem commonPart_of_ne {c : Char} (hspace : c ≠ ' ') (hbreak : isBreak c = false) (rest : List Char) :
    commonPart (c :: rest) = some (.character c 1) := by
  rw [commonPart, if_neg hspace, if_neg (by simp [hbreak])]

theorem doublePart_of_ne {c : Char} (hquote : c ≠ '"') (hescape : c ≠ '\\') (rest : List Char) :
    doublePart (c :: rest) = commonPart (c :: rest) := by
  unfold doublePart
  split
  · next heq => exact absurd (List.cons.inj heq).1 hquote
  · next heq => exact absurd (List.cons.inj heq).1 hescape
  · rfl

/-- In double quotes the text of a character that is not a space is read as the character. -/
theorem doublePart_doubleChar {c : Char} (hspace : c ≠ ' ') (rest : List Char) :
    ∃ d covered, doubleChar c = d :: covered ∧
      doublePart (d :: covered ++ rest) = some (.character c (d :: covered).length) := by
  unfold doubleChar
  split
  case h_15 _ _ _ _ hfeed _ _ hreturn _ hquote hescape hnext hline hparagraph =>
    split
    · have hbreak := isBreak_of_ne hfeed hreturn hnext hline hparagraph
      refine ⟨c, [], rfl, ?_⟩
      rw [List.cons_append, doublePart_of_ne hquote hescape, commonPart_of_ne hspace hbreak]
      rfl
    · next h =>
        rcases lt_or_eq_of_not_isPrintable (by simpa using h) with hlt | rfl | rfl | rfl
        · rw [if_pos (by omega)]
          refine ⟨_, _, rfl, ?_⟩
          rw [List.cons_append, List.length_cons, List.length_cons, (upperHex_byte _ hlt).1]
          exact escapePart_byte hlt rest
        all_goals exact ⟨_, _, rfl, rfl⟩
  all_goals exact ⟨_, _, rfl, rfl⟩

theorem readQuoted_double (s rest : List Char) (count : Nat) :
    readQuoted doublePart 0 (.spaces count) (s.flatMap doubleChar ++ '"' :: rest) =
      some (spaces count ++ s, rest) := by
  induction s generalizing count with
  | nil =>
      rw [List.append_nil]
      exact readQuoted_close rfl
  | cons c s ih =>
      rw [List.flatMap_cons, List.append_assoc]
      by_cases hspace : c = ' '
      · subst hspace
        have hchar : doubleChar ' ' = [' '] := by decide
        rw [hchar, List.singleton_append, readQuoted_space rfl, Gap.addSpace, ih, spaces_succ_append]
      · obtain ⟨d, covered, hchar, hpart⟩ :=
          doublePart_doubleChar hspace (s.flatMap doubleChar ++ '"' :: rest)
        rw [hchar, readQuoted_character hpart, ih]
        rfl

theorem hasPair_cons {first second : Char → Bool} {c : Char} {s : List Char}
    (h : hasPair first second (c :: s) = false) :
    (first c = true → s.head?.any second = false) ∧ hasPair first second s = false := by
  cases s with
  | nil => exact ⟨fun _ => rfl, rfl⟩
  | cons d s =>
      have hsplit : hasPair first second (c :: d :: s) =
          ((first c && second d) || hasPair first second (d :: s)) := rfl
      rw [hsplit, Bool.or_eq_false_iff, Bool.and_eq_false_imp] at h
      exact h

theorem singlePart_of_ne {c : Char} (h : c ≠ '\'') (rest : List Char) :
    singlePart (c :: rest) = commonPart (c :: rest) := by
  unfold singlePart
  split
  · next heq => exact absurd (List.cons.inj heq).1 h
  · next heq => exact absurd (List.cons.inj heq).1 h
  · rfl

theorem singlePart_close {rest : List Char} (h : rest.head? ≠ some '\'') :
    singlePart ('\'' :: rest) = some .close := by
  cases rest with
  | nil => rfl
  | cons c rest =>
      have hne : c ≠ '\'' := fun hc => h (congrArg some hc)
      unfold singlePart
      split
      · next heq => exact absurd (List.cons.inj (List.cons.inj heq).2).1 hne
      · rfl
      · next hquote => exact absurd rfl (hquote _)

theorem isBreak_quote : isBreak '\'' = false := by decide

/-- The text of a character in single quotes is read as the character. -/
theorem readQuoted_singleCharacter {c : Char} (hspace : c ≠ ' ') (hbreak : isBreak c = false)
    (gap : Gap) (rest : List Char) :
    readQuoted singlePart 0 gap ((if c = '\'' then ['\'', '\''] else [c]) ++ rest) =
      (readQuoted singlePart 0 (.spaces 0) rest).map fun r => (gap.text ++ c :: r.1, r.2) := by
  split
  · next hquote =>
      subst hquote
      have hpart : singlePart ('\'' :: ['\''] ++ rest) = some (.character '\'' 2) := rfl
      exact readQuoted_character hpart
  · next hquote =>
      have hpart : singlePart (c :: [] ++ rest) = some (.character c 1) :=
        (singlePart_of_ne hquote rest).trans (commonPart_of_ne hspace hbreak rest)
      exact readQuoted_character hpart

theorem readQuoted_spaces (first : Char) (more : List Char) (count : Nat) (rest : List Char) :
    readQuoted singlePart 0 (.breaks first more) (spaces count ++ rest) =
      readQuoted singlePart 0 (.breaks first more) rest := by
  induction count with
  | zero => rfl
  | succ count ih => exact ih

theorem isPrefixOf_eq_false {mark c : Char} (h : c ≠ mark) (marks rest : List Char) :
    (mark :: marks).isPrefixOf (c :: rest) = false := by
  simp [List.isPrefixOf, Ne.symm h]

theorem singlePart_lineBreak {c d : Char} (hbreak : isBreak c = true) (hdash : d ≠ '-') (hdot : d ≠ '.')
    (rest : List Char) : singlePart (c :: d :: rest) = some (.lineBreak c) := by
  have hquote : c ≠ '\'' := by
    rintro rfl
    simp [isBreak_quote] at hbreak
  have hspace : c ≠ ' ' := by
    rintro rfl
    simp [isBreak] at hbreak
  rw [singlePart_of_ne hquote, commonPart, if_neg hspace, if_pos hbreak, isPrefixOf_eq_false hdash,
    isPrefixOf_eq_false hdot]
  rfl

/-- Behind a break the inside of single quotes goes on with a space or with another break. -/
theorem singleBody_eq_cons {indent : Nat} (hindent : 0 < indent) (s rest : List Char) :
    ∃ d more, singleBody indent true s ++ '\'' :: rest = d :: more ∧ d ≠ '-' ∧ d ≠ '.' := by
  obtain ⟨n, rfl⟩ := Nat.exists_eq_succ_of_ne_zero (Nat.ne_of_gt hindent)
  cases s with
  | nil => exact ⟨' ', _, rfl, by decide, by decide⟩
  | cons c s =>
      rw [singleBody]
      split
      · next hbreak =>
          refine ⟨c, _, rfl, ?_, ?_⟩ <;> rintro rfl <;> simp [isBreak] at hbreak
      · by_cases hspace : c = ' '
        · subst hspace
          exact ⟨' ', _, rfl, by decide, by decide⟩
        · rw [if_pos (by simpa using hspace)]
          exact ⟨' ', _, rfl, by decide, by decide⟩

/-- Whether the inside of single quotes is read as a string, with the spaces or breaks that were read just
before it. Spaces that are held back stand before a character, and no space stands behind a break. -/
structure ReadsSingle (indent : Nat) (rest s : List Char) : Prop where
  behindSpaces (count : Nat) (hcount : 0 < count → s.head?.any isBreak = false) :
    readQuoted singlePart 0 (.spaces count) (singleBody indent false s ++ '\'' :: rest) =
      some (spaces count ++ s, rest)
  behindBreaks (first : Char) (more : List Char) (hfirst : first ≠ '\n')
      (hspace : s.head?.any (· == ' ') = false) :
    readQuoted singlePart 0 (.breaks first more) (singleBody indent true s ++ '\'' :: rest) =
      some (first :: more ++ s, rest)

namespace ReadsSingle

variable {indent : Nat} {rest s : List Char} {c : Char}

theorem nil (hrest : rest.head? ≠ some '\'') : ReadsSingle indent rest [] := by
  have hclose := singlePart_close hrest
  constructor
  · intro count _
    rw [List.append_nil]
    exact readQuoted_close hclose
  · intro first more hfirst _
    have hbody : singleBody indent true [] = spaces indent := rfl
    rw [hbody, readQuoted_spaces, readQuoted_close hclose, Gap.text, if_pos hfirst, List.append_nil]

theorem cons_break (hindent : 0 < indent) (hbreak : isBreak c = true) (hfeed : c ≠ '\n')
    (hafter : s.head?.any (· == ' ') = false) (h : ReadsSingle indent rest s) :
    ReadsSingle indent rest (c :: s) := by
  have hbody (afterBreak : Bool) :
      singleBody indent afterBreak (c :: s) = c :: singleBody indent true s := by
    rw [singleBody, if_pos hbreak]
  have hpart : singlePart (c :: (singleBody indent true s ++ '\'' :: rest)) = some (.lineBreak c) := by
    obtain ⟨d, more, heq, hdash, hdot⟩ := singleBody_eq_cons hindent s rest
    rw [heq, singlePart_lineBreak hbreak hdash hdot]
  constructor
  · intro count hcount
    -- No spaces are held back before a break, which would take them away.
    have hzero : count = 0 := by
      by_contra hne
      simpa [hbreak] using hcount (Nat.pos_of_ne_zero hne)
    rw [hbody, List.cons_append, readQuoted_lineBreak hpart, hzero]
    exact h.behindBreaks c [] hfeed hafter
  · intro first more hfirst _
    rw [hbody, List.cons_append, readQuoted_lineBreak hpart, Gap.addBreak,
      h.behindBreaks first (more ++ [c]) hfirst hafter]
    simp

theorem cons_space (hbefore : s.head?.any isBreak = false) (h : ReadsSingle indent rest s) :
    ReadsSingle indent rest (' ' :: s) := by
  have hbody : singleBody indent false (' ' :: s) = ' ' :: singleBody indent false s := rfl
  constructor
  · intro count _
    rw [hbody, List.cons_append, readQuoted_space rfl, Gap.addSpace,
      h.behindSpaces (count + 1) fun _ => hbefore, spaces_succ_append]
  · intro first more _ hhead
    simp at hhead

theorem cons_character (hspace : c ≠ ' ') (hbreak : isBreak c = false) (h : ReadsSingle indent rest s) :
    ReadsSingle indent rest (c :: s) := by
  have hread (gap : Gap) := readQuoted_singleCharacter hspace hbreak gap
    (singleBody indent false s ++ '\'' :: rest)
  have hzero := h.behindSpaces 0 fun hlt => absurd hlt (Nat.lt_irrefl 0)
  constructor
  · intro count _
    have hbody : singleBody indent false (c :: s) =
        (if c = '\'' then ['\'', '\''] else [c]) ++ singleBody indent false s := by
      rw [singleBody, if_neg (by simp [hbreak])]
      rfl
    rw [hbody, List.append_assoc, hread, hzero]
    rfl
  · intro first more hfirst _
    have hbody : singleBody indent true (c :: s) =
        spaces indent ++ ((if c = '\'' then ['\'', '\''] else [c]) ++ singleBody indent false s) := by
      rw [singleBody, if_neg (by simp [hbreak]), if_pos (by simpa using hspace), List.append_assoc]
    rw [hbody, List.append_assoc, List.append_assoc, readQuoted_spaces, hread, hzero, Gap.text,
      if_pos hfirst]
    rfl

end ReadsSingle

/-- The inside of single quotes is read as the string, if that has no line feed and no space beside a
break. -/
theorem readsSingle {indent : Nat} (hindent : 0 < indent) {rest : List Char}
    (hrest : rest.head? ≠ some '\'') {s : List Char} (hfeed : '\n' ∉ s)
    (hafter : hasPair isBreak (· == ' ') s = false) (hbefore : hasPair (· == ' ') isBreak s = false) :
    ReadsSingle indent rest s := by
  induction s with
  | nil => exact .nil hrest
  | cons c s ih =>
      rw [List.mem_cons, not_or] at hfeed
      obtain ⟨hafter, hafters⟩ := hasPair_cons hafter
      obtain ⟨hbefore, hbefores⟩ := hasPair_cons hbefore
      have ih := ih hfeed.2 hafters hbefores
      cases hbreak : isBreak c with
      | true => exact ih.cons_break hindent hbreak (Ne.symm hfeed.1) (hafter hbreak)
      | false =>
          by_cases hspace : c = ' '
          · subst hspace
            exact ih.cons_space (hbefore rfl)
          · exact ih.cons_character hspace hbreak

end SwaggerGen.Yaml
