import SwaggerGen.Proofs.Yaml.Lines
import SwaggerGen.Proofs.Yaml.Scalar

/-!
# Literal blocks read back

The lines of a block are those of its string, each without its indentation. The header tells the
indentation where the string begins with a space or a break, and what becomes of the breaks at the end.
-/

namespace SwaggerGen.Yaml

theorem isBreak_space : isBreak ' ' = false := by decide

section Lines

variable {indent : Nat}

theorem readLines_spaces {start count : Nat} (h : start + count ≤ indent) (t : List Char) :
    readLines indent (some start) (spaces count ++ t) = readLines indent (some (start + count)) t := by
  induction count generalizing start with
  | zero => rfl
  | succ count ih =>
      have hne : start ≠ indent := by omega
      have hstep : readLines indent (some start) (' ' :: (spaces count ++ t)) =
          readLines indent (some (start + 1)) (spaces count ++ t) := by
        rw [readLines, if_neg (by simp [isBreak_space]), if_neg hne, if_pos rfl]
      have hcount : start + 1 + count = start + (count + 1) := by omega
      rw [← hcount, ← ih (by omega), ← hstep]
      rfl

/-- A block ends before a line that is not indented as far. -/
theorem readLines_end {rest : List Char} (h : Follows (fun column _ => column < indent) rest) :
    readLines indent (some 0) rest = ([], rest) := by
  cases h with
  | ended => rfl
  | @line column line hline hlt =>
      cases line with
      | nil => exact absurd rfl hline.ne_nil
      | cons c line =>
          rw [readLines_spaces (by omega), Nat.zero_add, readLines,
            if_neg (Bool.eq_false_iff.mp hline.2), if_neg (Nat.ne_of_lt hlt), if_neg hline.1]

/-- Where the reader of a block stands in a line behind a string. -/
def lineStart (atStart : Bool) (s : List Char) : Option Nat :=
  if (s.getLast?.map isBreak).getD atStart then some 0 else none

theorem lineStart_cons (atStart : Bool) (c : Char) (s : List Char) :
    lineStart atStart (c :: s) = lineStart (isBreak c) s := by
  cases s with
  | nil => rfl
  | cons d s => rw [lineStart, lineStart, List.getLast?_cons_cons]; rfl

/-- The lines of a block are read as its string, up to the text behind. -/
theorem readLines_blockBody (indent : Nat) (s t : List Char) (atStart : Bool) :
    readLines indent (if atStart then some 0 else none) (blockBody indent atStart s ++ t) =
      (s ++ (readLines indent (lineStart atStart s) t).1,
        (readLines indent (lineStart atStart s) t).2) := by
  -- Whether a line begins is the state of both the printer and the reader.
  induction s generalizing atStart with
  | nil => rfl
  | cons c s ih =>
      have ih := ih (isBreak c)
      rw [lineStart_cons, blockBody]
      cases hbreak : isBreak c with
      | true =>
          rw [hbreak, if_pos rfl] at ih
          cases atStart <;> simp [readLines, hbreak, ih]
      | false =>
          rw [hbreak, if_neg (by decide)] at ih
          cases atStart with
          | true =>
              have hspaces := readLines_spaces (Nat.le_of_eq (Nat.zero_add indent))
                (c :: (blockBody indent false s ++ t))
              simp [hspaces, readLines, hbreak, ih]
          | false => simp [readLines, hbreak, ih]

theorem margin_spaces {start most count : Nat} {c : Char} (hspace : c ≠ ' ') (hbreak : isBreak c = false)
    (t : List Char) : margin start most (spaces count ++ c :: t) = max (start + count) most := by
  induction count generalizing start with
  | zero => rw [spaces, List.replicate_zero, List.nil_append, margin, if_neg hspace,
      if_neg (by simp [hbreak]), Nat.add_zero]
  | succ count ih =>
      have hcount : start + 1 + count = start + (count + 1) := by omega
      rw [← hcount, ← ih]
      rfl

end Lines

/-- By its mark a block keeps of its lines what its string is, without the end of the last line. -/
theorem apply_chompMark {s : List Char} (hne : s ≠ []) (rest : List Char) :
    ∃ chomp, readChomp (chompMark s ++ '\n' :: rest) = (chomp, '\n' :: rest) ∧
      chomp.apply (if s.getLast?.any isBreak then s else s ++ ['\n']) = s := by
  obtain ⟨t, last, rfl⟩ := (List.eq_nil_or_concat' s).resolve_left hne
  rw [chompMark, List.reverse_append, List.reverse_singleton, List.singleton_append,
    List.getLast?_concat, Option.any_some]
  cases hlast : isBreak last with
  | false =>
      refine ⟨.strip, by simp [hlast, readChomp], ?_⟩
      have hfeed : isBreak '\n' = true := by decide
      rw [if_neg (by decide), Chomp.apply, List.rdropWhile_concat_pos _ _ _ hfeed,
        List.rdropWhile_concat_neg _ _ _ (by simp [hlast])]
  | true =>
      rw [if_pos rfl]
      cases hbefore : t.getLast?.all isBreak with
      | true => exact ⟨.keep, by simp [hlast, hbefore, readChomp], rfl⟩
      | false =>
          refine ⟨.clip, by simp [hlast, hbefore, readChomp], ?_⟩
          have hlines : t.rdropWhile isBreak = t := by
            rw [List.rdropWhile_eq_self_iff]
            intro ht hbreak
            rw [List.getLast?_eq_some_getLast ht, Option.all_some] at hbefore
            exact Bool.false_ne_true (hbefore.symm.trans hbreak)
          have hnonempty : t.isEmpty = false := by
            cases t with
            | nil => cases hbefore
            | cons c t => rfl
          rw [Chomp.apply, List.rdropWhile_concat_pos _ _ _ hlast, hlines, hnonempty]
          exact List.take_of_length_le (by simp)

theorem readHint_chompMark (s rest : List Char) :
    readHint (chompMark s ++ '\n' :: rest) = (none, chompMark s ++ '\n' :: rest) := by
  rw [chompMark]
  split
  · rfl
  · split
    · rfl
    · split <;> rfl

/-- The indentation of a block, as the header gives it or as the first line shows it. -/
theorem readHint_block (column : Nat) {s : List Char} (hne : s ≠ []) (t : List Char) :
    ∃ hint, readHint ((if s.head?.any (fun c => c == ' ' || isBreak c) then ['2'] else []) ++
        chompMark s ++ '\n' :: (blockBody (column + 2) true s ++ t)) =
          (hint, chompMark s ++ '\n' :: (blockBody (column + 2) true s ++ t)) ∧
      (hint = some 2 ∨ hint = none ∧ margin 0 0 (blockBody (column + 2) true s ++ t) = column + 2) := by
  cases s with
  | nil => exact absurd rfl hne
  | cons c s =>
      rw [List.head?_cons, Option.any_some]
      split
      · exact ⟨some 2, rfl, .inl rfl⟩
      · next hfirst =>
          simp only [Bool.or_eq_true, beq_iff_eq, not_or, Bool.not_eq_true] at hfirst
          refine ⟨none, readHint_chompMark (c :: s) _, .inr ⟨rfl, ?_⟩⟩
          rw [blockBody, if_neg (by simp [hfirst.2]), if_pos rfl, List.append_assoc, List.cons_append,
            margin_spaces hfirst.1 hfirst.2]
          simp

/-- The lines of a block with the text behind it, where a line that has not ended ends. -/
theorem readLines_block (indent : Nat) {s rest : List Char} (hne : s ≠ [])
    (hrest : Follows (fun column _ => column < indent) rest) :
    readLines indent (some 0) (blockBody indent true s ++
        (if s.getLast?.any isBreak then rest else '\n' :: rest)) =
      (if s.getLast?.any isBreak then s else s ++ ['\n'], rest) := by
  have hend := readLines_end hrest
  have hstart : lineStart true s = if s.getLast?.any isBreak then some 0 else none := by
    rw [lineStart, List.getLast?_eq_some_getLast hne]
    rfl
  have hbody := readLines_blockBody indent s
    (if s.getLast?.any isBreak then rest else '\n' :: rest) true
  rw [if_pos rfl, hstart] at hbody
  rw [hbody]
  cases hlast : s.getLast?.any isBreak with
  | true => simp [hend]
  | false =>
      have hfeed : isBreak '\n' = true := by decide
      simp [readLines, hfeed, hend]

/-- A block is read as its string, when what follows is not indented as far as its lines. -/
theorem readFlat_block (column : Nat) {s rest : List Char} (hne : s ≠ [])
    (hrest : Follows (fun indent _ => indent ≤ column) rest) :
    readFlat column (block (column + 2) s ++ (if s.getLast?.any isBreak then rest else '\n' :: rest)) =
      some (.string (String.ofList s), rest) := by
  have hlines := readLines_block (column + 2) hne
    (hrest.imp fun indent _ h => Nat.lt_of_le_of_lt h (by omega))
  generalize (if s.getLast?.any isBreak then rest else '\n' :: rest) = t at hlines ⊢
  obtain ⟨hint, hhint, hindent⟩ := readHint_block column hne t
  obtain ⟨chomp, hchomp, happly⟩ := apply_chompMark hne (blockBody (column + 2) true s ++ t)
  have hfeed : endLine ('\n' :: (blockBody (column + 2) true s ++ t)) =
      some (blockBody (column + 2) true s ++ t) := rfl
  have htext : block (column + 2) s ++ t =
      '|' :: ((if s.head?.any (fun c => c == ' ' || isBreak c) then ['2'] else []) ++ chompMark s ++
        '\n' :: (blockBody (column + 2) true s ++ t)) := by
    simp [block]
  have hmost : max (column + 2) (column + 1) = column + 2 := by omega
  rw [htext, readFlat, readLiteral, hhint]
  rcases hindent with rfl | ⟨rfl, hmargin⟩
  · simp only [hchomp, hfeed, Option.bind_eq_bind, Option.bind_some, hlines, happly]
  · simp only [hchomp, hfeed, Option.bind_eq_bind, Option.bind_some, hmargin, hmost, hlines, happly]

end SwaggerGen.Yaml
