import SwaggerGen.Proofs.Yaml.Reader

/-!
# Lines of a container

The items of a container stand in one column, each up to the first line that is indented no further. They
are read one after another, up to a line that belongs to a container around.
-/

namespace SwaggerGen.Yaml

/-- Whether a text begins with a character of a line, behind the indentation. -/
def StartsLine : List Char → Prop
  | [] => False
  | c :: _ => c ≠ ' ' ∧ isBreak c = false

namespace StartsLine

variable {s : List Char}

theorem ne_nil (h : StartsLine s) : s ≠ [] := by
  rintro rfl
  exact h

theorem append (h : StartsLine s) (t : List Char) : StartsLine (s ++ t) := by
  cases s with
  | nil => exact absurd rfl h.ne_nil
  | cons c s => exact h

theorem dropWhile_space (h : StartsLine s) : s.dropWhile (· == ' ') = s := by
  cases s with
  | nil => rfl
  | cons c s => exact List.dropWhile_cons_of_neg (by simpa using h.1)

theorem all_head? (h : StartsLine s) : s.head?.all isBreak = false := by
  cases s with
  | nil => exact absurd rfl h.ne_nil
  | cons c s => exact h.2

theorem nextLineFrom_spaces (h : StartsLine s) (start count : Nat) :
    nextLineFrom start (spaces count ++ s) = some (start + count, s) := by
  induction count generalizing start with
  | zero =>
      cases s with
      | nil => exact absurd rfl h.ne_nil
      | cons c s =>
          rw [spaces, List.replicate_zero, List.nil_append, nextLineFrom, if_neg h.1,
            if_neg (Bool.eq_false_iff.mp h.2), Nat.add_zero]
  | succ count ih =>
      have hcount : start + (count + 1) = start + 1 + count := by omega
      rw [hcount, ← ih]
      rfl

/-- A line is found behind its indentation. -/
theorem nextLine_spaces (h : StartsLine s) (count : Nat) :
    nextLine (spaces count ++ s) = some (count, s) := by
  rw [nextLine, h.nextLineFrom_spaces, Nat.zero_add]

end StartsLine

/-- What follows the lines of a value: nothing, or a line of which something is known. -/
inductive Follows (bound : Nat → List Char → Prop) : List Char → Prop where
  | ended : Follows bound []
  | line {column : Nat} {line : List Char} (hline : StartsLine line) (h : bound column line) :
      Follows bound (spaces column ++ line)

theorem Follows.imp {p q : Nat → List Char → Prop} {rest : List Char} (h : Follows p rest)
    (himp : ∀ column line, p column line → q column line) : Follows q rest := by
  cases h with
  | ended => exact .ended
  | line hline h => exact .line hline (himp _ _ h)

/-- Whether a container in a column ends before a line: one further out, or one in its column that is no
item, if it may stop there. -/
def EndsContainer (column : Nat) (mayStop : Bool) (isItem : List Char → Bool) (indent : Nat)
    (line : List Char) : Prop :=
  indent < column ∨ indent = column ∧ mayStop = true ∧ isItem line = false

theorem EndsContainer.le {column : Nat} {mayStop : Bool} {isItem : List Char → Bool} {indent : Nat}
    {line : List Char} (h : EndsContainer column mayStop isItem indent line) : indent ≤ column := by
  rcases h with hlt | ⟨heq, -⟩
  · exact Nat.le_of_lt hlt
  · exact Nat.le_of_eq heq

section Lines

variable {α : Type} (column : Nat) (text : α → List Char)

/-- The texts of items, each from the column of their container on. The flag tells that the first line
is indented already. -/
def linesOf (started : Bool) : List α → List Char
  | [] => []
  | a :: rest => (if started then [] else spaces column) ++ text a ++ linesOf false rest

variable {values : List α} {bound : Nat → List Char → Prop} {isItem : List Char → Bool}

theorem linesOf_false_eq (hne : values ≠ []) :
    linesOf column text false values = spaces column ++ linesOf column text true values := by
  cases values with
  | nil => exact absurd rfl hne
  | cons a rest => simp [linesOf]

/-- What holds of the text of each item holds of the lines, which begin with one. -/
theorem linesOf_of_forall {p : List Char → Prop} (hne : values ≠ [])
    (hitem : ∀ a ∈ values, ∀ t, p (text a ++ t)) (rest : List Char) :
    p (linesOf column text true values ++ rest) := by
  cases values with
  | nil => exact absurd rfl hne
  | cons a more =>
      have hlines : linesOf column text true (a :: more) ++ rest =
          text a ++ (linesOf column text false more ++ rest) := by
        simp [linesOf]
      rw [hlines]
      exact hitem a List.mem_cons_self _

/-- A container ends with its last item. -/
theorem readItems_last (item : Reader α) {mayStop : Bool} {s rest : List Char} {a : α}
    (hread : item s = some (a, rest)) (hrest : Follows (EndsContainer column mayStop isItem) rest)
    (tries : Nat) : readItems item isItem mayStop column (tries + 1) s = some ([a], rest) := by
  rw [readItems, hread]
  cases hrest with
  | ended => rfl
  | @line indent line hline h =>
      have hends : ¬ (indent = column ∧ isItem line = true) := by
        rintro ⟨rfl, hisItem⟩
        rcases h with hlt | ⟨-, -, hnot⟩
        · exact Nat.lt_irrefl _ hlt
        · exact Bool.false_ne_true (hnot.symm.trans hisItem)
      have hstops : indent < column ∨ indent = column ∧ mayStop = true :=
        h.imp_right fun h => ⟨h.1, h.2.1⟩
      simp only [Option.bind_eq_bind, Option.bind_some, hline.nextLine_spaces]
      rw [if_neg hends, if_pos hstops]

/-- Behind an item a container goes on with a line that is one. -/
theorem readItems_more (item : Reader α) (mayStop : Bool) {s line : List Char} {a : α}
    (hread : item s = some (a, spaces column ++ line)) (hline : StartsLine line)
    (hisItem : isItem line = true) (tries : Nat) :
    readItems item isItem mayStop column (tries + 1) s =
      (readItems item isItem mayStop column tries line).map fun r => (a :: r.1, r.2) := by
  rw [readItems, hread]
  simp only [Option.bind_eq_bind, Option.bind_some, hline.nextLine_spaces, hisItem, and_self, if_true]
  cases readItems item isItem mayStop column tries line <;> rfl

/-- The items of a container are read from their lines: each one is read up to what follows it, and
looks like an item of the container. -/
theorem readItems_linesOf (item : Reader α) {mayStop : Bool} {rest : List Char} (hne : values ≠ [])
    (hread : ∀ a ∈ values, ∀ rest, Follows bound rest → item (text a ++ rest) = some (a, rest))
    (hitem : ∀ a ∈ values, ∀ t, StartsLine (text a ++ t) ∧ isItem (text a ++ t) = true ∧
      bound column (text a ++ t))
    (hbound : Follows bound rest) (hends : Follows (EndsContainer column mayStop isItem) rest)
    {tries : Nat} (htries : values.length ≤ tries) :
    readItems item isItem mayStop column tries (linesOf column text true values ++ rest) =
      some (values, rest) := by
  induction values generalizing tries with
  | nil => exact absurd rfl hne
  | cons a more ih =>
      obtain ⟨tries, rfl⟩ := Nat.exists_eq_succ_of_ne_zero (Nat.ne_of_gt (Nat.lt_of_lt_of_le
        (Nat.succ_pos _) htries))
      rw [List.forall_mem_cons] at hread hitem
      cases more with
      | nil =>
          have hlines : linesOf column text true [a] ++ rest = text a ++ rest := by simp [linesOf]
          rw [hlines]
          exact readItems_last column item (hread.1 rest hbound) hends tries
      | cons b more =>
          -- The next item is the line behind this one.
          obtain ⟨hline, hisItem, hnext⟩ := hitem.2 b List.mem_cons_self
            (linesOf column text false more ++ rest)
          have hlines : linesOf column text true (a :: b :: more) ++ rest =
              text a ++ (spaces column ++ (text b ++ (linesOf column text false more ++ rest))) := by
            simp [linesOf]
          have hfirst := hread.1 _ (.line hline hnext)
          have ih := ih (List.cons_ne_nil b more) hread.2 hitem.2 (Nat.le_of_succ_le_succ htries)
          have hmore : linesOf column text true (b :: more) ++ rest =
              text b ++ (linesOf column text false more ++ rest) := by
            simp [linesOf]
          rw [hmore] at ih
          rw [hlines, readItems_more column item mayStop hfirst hline hisItem, ih, Option.map_some]

theorem length_le_linesOf (started : Bool) (hitem : ∀ a ∈ values, text a ≠ []) :
    values.length ≤ (linesOf column text started values).length := by
  induction values generalizing started with
  | nil => exact Nat.zero_le _
  | cons a rest ih =>
      rw [List.forall_mem_cons] at hitem
      have hfirst := List.length_pos_iff.mpr hitem.1
      have ih := ih false hitem.2
      rw [linesOf, List.length_append, List.length_append, List.length_cons]
      omega

end Lines

end SwaggerGen.Yaml
