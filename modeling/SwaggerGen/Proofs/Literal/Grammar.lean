import SwaggerGen.Literal
import SwaggerGen.Proofs.Text.Numeral
import SwaggerGen.Proofs.Text.Trim
import SwaggerGen.Proofs.Text.Utf8Order

/-!
# The grammar of literals

A literal is a body between two equal quotes. Between back quotes the body is taken as it is; between
double or single quotes it is a row of items, each spelling some bytes, and all bytes together are the
UTF-8 form of the string. Reading gives the string of a literal and nothing else.
-/

namespace SwaggerGen.Literal

/-- The letters that stand for control characters behind a backslash. -/
def controlEscapes : List (Char × Char) :=
  [('a', '\x07'), ('b', '\x08'), ('f', '\x0c'), ('n', '\n'), ('r', '\r'), ('t', '\t'), ('v', '\x0b')]

/-- An item between quotes, and the bytes that it spells. -/
inductive Spells (quote : Char) : List Char → List UInt8 → Prop
  | raw {c : Char} (hquote : c ≠ quote) (hbackslash : c ≠ '\\') (hline : c ≠ '\n') :
      Spells quote [c] (String.utf8EncodeChar c)
  | control {letter c : Char} (h : (letter, c) ∈ controlEscapes) :
      Spells quote ['\\', letter] (String.utf8EncodeChar c)
  | backslash : Spells quote ['\\', '\\'] (String.utf8EncodeChar '\\')
  | quote : Spells quote ['\\', quote] (String.utf8EncodeChar quote)
  | hexByte {digits : List Char} {b : UInt8} (hlength : digits.length = 2)
      (h : Text.IsNumeral 16 digits b.toNat) : Spells quote ('\\' :: 'x' :: digits) [b]
  | octalByte {digits : List Char} {b : UInt8} (hlength : digits.length = 3)
      (h : Text.IsNumeral 8 digits b.toNat) : Spells quote ('\\' :: digits) [b]
  | shortCode {digits : List Char} {c : Char} (hlength : digits.length = 4)
      (h : Text.IsNumeral 16 digits c.toNat) :
      Spells quote ('\\' :: 'u' :: digits) (String.utf8EncodeChar c)
  | longCode {digits : List Char} {c : Char} (hlength : digits.length = 8)
      (h : Text.IsNumeral 16 digits c.toNat) :
      Spells quote ('\\' :: 'U' :: digits) (String.utf8EncodeChar c)

/-- A row of items, and the bytes that they spell together. -/
inductive SpellsAll (quote : Char) : List Char → List UInt8 → Prop
  | nil : SpellsAll quote [] []
  | cons {item rest : List Char} {bytes more : List UInt8} (h : Spells quote item bytes)
      (hrest : SpellsAll quote rest more) : SpellsAll quote (item ++ rest) (bytes ++ more)

/-- A literal without blanks around it, and the string that it stands for. -/
inductive Denotes : List Char → String → Prop
  | backQuoted {body : List Char} (h : '`' ∉ body) :
      Denotes ('`' :: body ++ ['`']) (String.ofList (body.filter (· != '\r')))
  | doubleQuoted {body : List Char} {s : String} (h : SpellsAll '"' body (Text.utf8Bytes s)) :
      Denotes ('"' :: body ++ ['"']) s
  | singleQuoted {body : List Char} {c : Char} (h : SpellsAll '\'' body (String.utf8EncodeChar c)) :
      Denotes ('\'' :: body ++ ['\'']) (String.singleton c)

/-- Whether a text is a literal for a string, but for blanks around it. -/
def StandsFor (raw s : String) : Prop :=
  ∃ before literal after, before ++ literal ++ after = raw.toList ∧
    (∀ c ∈ before, Text.isBlank c) ∧ (∀ c ∈ after, Text.isBlank c) ∧ Denotes literal s

theorem byte?_eq_some_iff (n : Nat) (item : Item) :
    byte? n = some item ↔ ∃ b : UInt8, b.toNat = n ∧ item = .byte b := by
  rw [byte?, Option.ite_none_right_eq_some]
  constructor
  · rintro ⟨hn, hitem⟩
    refine ⟨n.toUInt8, ?_, (Option.some.inj hitem).symm⟩
    rw [Nat.toUInt8_eq, UInt8.toNat_ofNat', Nat.mod_eq_of_lt hn]
  · rintro ⟨b, rfl, rfl⟩
    exact ⟨b.toNat_lt, by simp⟩

theorem char?_eq_some_iff (n : Nat) (item : Item) :
    char? n = some item ↔ ∃ c : Char, c.toNat = n ∧ item = .char c := by
  rw [char?, Option.ite_none_right_eq_some]
  constructor
  · rintro ⟨hn, hitem⟩
    refine ⟨Char.ofNat n, ?_, (Option.some.inj hitem).symm⟩
    rw [Char.ofNat, dif_pos hn]
    rfl
  · rintro ⟨c, rfl, rfl⟩
    exact ⟨c.valid, by simp⟩

section Numbered

variable {base count width length : Nat} {s : List Char} {item : Item}

theorem numbered_eq_some_iff (ofNumber? : Nat → Option Item) (hbase : base ≤ 16)
    (hcount : 0 < count) :
    ((Text.leadingNumber? base count s).bind ofNumber?).map (·, width) = some (item, length) ↔
      width = length ∧ ∃ digits rest n, digits ++ rest = s ∧ digits.length = count ∧
        Text.IsNumeral base digits n ∧ ofNumber? n = some item := by
  simp only [Option.map_eq_some_iff, Option.bind_eq_some_iff, Prod.mk.injEq,
    Text.leadingNumber?_eq_some_iff hbase hcount]
  constructor
  · rintro ⟨_, ⟨n, ⟨digits, rest, rfl, hlength, hnumeral⟩, hitem⟩, rfl, rfl⟩
    exact ⟨rfl, digits, rest, n, rfl, hlength, hnumeral, hitem⟩
  · rintro ⟨rfl, digits, rest, n, rfl, hlength, hnumeral, hitem⟩
    exact ⟨item, ⟨n, ⟨digits, rest, rfl, hlength, hnumeral⟩, hitem⟩, rfl, rfl⟩

theorem numberedByte_eq_some_iff (hbase : base ≤ 16) (hcount : 0 < count) :
    ((Text.leadingNumber? base count s).bind byte?).map (·, width) = some (item, length) ↔
      width = length ∧ ∃ digits rest, ∃ b : UInt8, digits ++ rest = s ∧ digits.length = count ∧
        Text.IsNumeral base digits b.toNat ∧ item = .byte b := by
  rw [numbered_eq_some_iff byte? hbase hcount]
  simp only [byte?_eq_some_iff]
  constructor
  · rintro ⟨hwidth, digits, rest, _, hs, hlength, hnumeral, b, rfl, hitem⟩
    exact ⟨hwidth, digits, rest, b, hs, hlength, hnumeral, hitem⟩
  · rintro ⟨hwidth, digits, rest, b, hs, hlength, hnumeral, hitem⟩
    exact ⟨hwidth, digits, rest, _, hs, hlength, hnumeral, b, rfl, hitem⟩

theorem numberedChar_eq_some_iff (hbase : base ≤ 16) (hcount : 0 < count) :
    ((Text.leadingNumber? base count s).bind char?).map (·, width) = some (item, length) ↔
      width = length ∧ ∃ digits rest, ∃ c : Char, digits ++ rest = s ∧ digits.length = count ∧
        Text.IsNumeral base digits c.toNat ∧ item = .char c := by
  rw [numbered_eq_some_iff char? hbase hcount]
  simp only [char?_eq_some_iff]
  constructor
  · rintro ⟨hwidth, digits, rest, _, hs, hlength, hnumeral, c, rfl, hitem⟩
    exact ⟨hwidth, digits, rest, c, hs, hlength, hnumeral, hitem⟩
  · rintro ⟨hwidth, digits, rest, c, hs, hlength, hnumeral, hitem⟩
    exact ⟨hwidth, digits, rest, _, hs, hlength, hnumeral, c, rfl, hitem⟩

end Numbered

theorem spells_of_escape? {quote : Char} {s : List Char} {item : Item} {length : Nat}
    (h : escape? quote s = some (item, length)) :
    ∃ code rest, code ++ rest = s ∧ code.length = length ∧
      Spells quote ('\\' :: code) item.bytes := by
  have hnamed : ∀ {letter c : Char} {rest : List Char},
      some (Item.char c, 1) = some (item, length) →
      Spells quote ['\\', letter] (String.utf8EncodeChar c) →
      ∃ code tail, code ++ tail = letter :: rest ∧ code.length = length ∧
        Spells quote ('\\' :: code) item.bytes := by
    intro letter c rest hitem hspells
    cases hitem
    exact ⟨[letter], rest, rfl, rfl, hspells⟩
  unfold escape? at h
  split at h
  · cases h
  · exact hnamed h (.control (by decide))
  · exact hnamed h (.control (by decide))
  · exact hnamed h (.control (by decide))
  · exact hnamed h (.control (by decide))
  · exact hnamed h (.control (by decide))
  · exact hnamed h (.control (by decide))
  · exact hnamed h (.control (by decide))
  · exact hnamed h .backslash
  · obtain ⟨rfl, digits, rest, b, rfl, hlength, hnumeral, rfl⟩ :=
      (numberedByte_eq_some_iff (by decide) (by decide)).mp h
    exact ⟨'x' :: digits, rest, rfl, congrArg Nat.succ hlength, .hexByte hlength hnumeral⟩
  · obtain ⟨rfl, digits, rest, c, rfl, hlength, hnumeral, rfl⟩ :=
      (numberedChar_eq_some_iff (by decide) (by decide)).mp h
    exact ⟨'u' :: digits, rest, rfl, congrArg Nat.succ hlength, .shortCode hlength hnumeral⟩
  · obtain ⟨rfl, digits, rest, c, rfl, hlength, hnumeral, rfl⟩ :=
      (numberedChar_eq_some_iff (by decide) (by decide)).mp h
    exact ⟨'U' :: digits, rest, rfl, congrArg Nat.succ hlength, .longCode hlength hnumeral⟩
  · split at h
    · next hquote =>
        subst hquote
        exact hnamed h .quote
    · obtain ⟨rfl, digits, rest, b, hs, hlength, hnumeral, rfl⟩ :=
        (numberedByte_eq_some_iff (by decide) (by decide)).mp h
      exact ⟨digits, rest, hs, hlength, .octalByte hlength hnumeral⟩

theorem itemsAfter?_append (quote : Char) (covered rest : List Char) :
    itemsAfter? quote covered.length (covered ++ rest) = itemsAfter? quote 0 rest := by
  induction covered with
  | nil => rfl
  | cons c covered ih => exact ih

theorem itemsAfter?_raw {quote c : Char} (hquote : c ≠ quote) (hbackslash : c ≠ '\\')
    (hline : c ≠ '\n') (rest : List Char) :
    itemsAfter? quote 0 (c :: rest) = (itemsAfter? quote 0 rest).map (.char c :: ·) := by
  rw [itemsAfter?, if_neg (not_or.mpr ⟨hline, hquote⟩), if_neg hbackslash]

theorem itemsAfter?_escape {quote : Char} {code rest : List Char} {item : Item}
    (hquote : quote ≠ '\\') (h : escape? quote (code ++ rest) = some (item, code.length)) :
    itemsAfter? quote 0 ('\\' :: code ++ rest) = (itemsAfter? quote 0 rest).map (item :: ·) := by
  rw [List.cons_append, itemsAfter?, if_neg (not_or.mpr ⟨by decide, hquote.symm⟩), if_pos rfl, h]
  simp only [Option.bind_eq_bind, Option.bind_some, itemsAfter?_append]
  rw [Option.map_eq_bind]
  rfl

theorem spellsAll_of_itemsAfter? {quote : Char} {body : List Char} {items : List Item}
    (h : itemsAfter? quote 0 body = some items) :
    SpellsAll quote body (items.flatMap Item.bytes) := by
  -- by length, as an escape covers several characters at once
  induction hlength : body.length using Nat.strong_induction_on generalizing body items with
  | _ length ih =>
      cases body with
      | nil =>
          cases h
          exact .nil
      | cons c rest =>
          rw [itemsAfter?] at h
          split at h
          · cases h
          · next hplain =>
              rw [not_or] at hplain
              split at h
              · next hbackslash =>
                  subst hbackslash
                  simp only [Option.bind_eq_bind, Option.bind_eq_some_iff, Option.some.injEq] at h
                  obtain ⟨⟨item, width⟩, hescape, more, hmore, rfl⟩ := h
                  obtain ⟨code, tail, rfl, rfl, hspells⟩ := spells_of_escape? hescape
                  rw [itemsAfter?_append] at hmore
                  apply SpellsAll.cons hspells
                  apply ih tail.length _ hmore rfl
                  rw [← hlength, List.length_cons, List.length_append]
                  omega
              · next hbackslash =>
                  obtain ⟨more, hmore, rfl⟩ := Option.map_eq_some_iff.mp h
                  have hrest := ih rest.length (by rw [← hlength]; exact Nat.lt_succ_self _) hmore rfl
                  exact SpellsAll.cons (.raw hplain.2 hbackslash hplain.1) hrest

theorem head_mem_of_isNumeral {digit : Char} {more : List Char} {n : Nat}
    (h : Text.IsNumeral 8 (digit :: more) n) : digit ∈ "01234567".toList := by
  have hlower : ∀ v < 8, "0123456789abcdef".toList[v]?.all ("01234567".toList.contains ·) := by
    decide
  have hupper : ∀ v < 8, "0123456789ABCDEF".toList[v]?.all ("01234567".toList.contains ·) := by
    decide
  obtain ⟨values, hvalues, -⟩ := h
  cases hvalues with
  | @cons _ value _ _ hdigit _ =>
      rcases hdigit with ⟨hvalue, hrow | hrow⟩
      · have hmem := hlower value hvalue
        rwa [hrow, Option.all_some, List.contains_iff_mem] at hmem
      · have hmem := hupper value hvalue
        rwa [hrow, Option.all_some, List.contains_iff_mem] at hmem

theorem fromUTF8?_eq_some_iff (bytes : ByteArray) (s : String) :
    String.fromUTF8? bytes = some s ↔ bytes = s.toByteArray := by
  constructor
  · intro h
    rw [String.fromUTF8?] at h
    split at h
    · obtain rfl := Option.some.inj h
      rfl
    · cases h
  · rintro rfl
    rw [String.fromUTF8?, dif_pos s.isValidUTF8]
    rfl

theorem spelled?_eq_some_iff (items : List Item) (s : String) :
    spelled? items = some s ↔ items.flatMap Item.bytes = Text.utf8Bytes s := by
  rw [spelled?, fromUTF8?_eq_some_iff, ByteArray.ext_iff, List.data_toByteArray,
    ← Array.toList_inj, Text.utf8Bytes, String.toUTF8_eq_toByteArray]

section Quotes

variable {quote : Char} (hquote : quote = '"' ∨ quote = '\'')

include hquote

theorem escape?_octal {digit : Char} (h : digit ∈ "01234567".toList) (rest : List Char) :
    escape? quote (digit :: rest) =
      ((Text.leadingNumber? 8 3 (digit :: rest)).bind byte?).map (·, 3) := by
  have hne : digit ≠ quote := by
    rintro rfl
    rcases hquote with rfl | rfl <;> exact absurd h (by decide)
  have hdigits : digit = '0' ∨ digit = '1' ∨ digit = '2' ∨ digit = '3' ∨ digit = '4' ∨
      digit = '5' ∨ digit = '6' ∨ digit = '7' := by simpa using h
  rcases hdigits with rfl | rfl | rfl | rfl | rfl | rfl | rfl | rfl <;> exact if_neg hne

/-- What spells bytes in front of a body is read as one item of these bytes. -/
theorem Spells.exists_item {item : List Char} {bytes : List UInt8} (h : Spells quote item bytes) :
    ∃ i : Item, i.bytes = bytes ∧
      ∀ rest, itemsAfter? quote 0 (item ++ rest) = (itemsAfter? quote 0 rest).map (i :: ·) := by
  have hescape : quote ≠ '\\' := by rcases hquote with rfl | rfl <;> decide
  cases h with
  | raw hne hbackslash hline =>
      exact ⟨.char _, rfl, itemsAfter?_raw hne hbackslash hline⟩
  | @control letter c h =>
      refine ⟨.char c, rfl, fun rest => itemsAfter?_escape hescape ?_⟩
      simp only [controlEscapes, List.mem_cons, Prod.mk.injEq, List.not_mem_nil, or_false] at h
      rcases h with h | h | h | h | h | h | h <;> obtain ⟨rfl, rfl⟩ := h <;> rfl
  | backslash => exact ⟨.char _, rfl, fun rest => itemsAfter?_escape hescape rfl⟩
  | quote =>
      refine ⟨.char _, rfl, fun rest => itemsAfter?_escape hescape ?_⟩
      rcases hquote with rfl | rfl <;> rfl
  | @hexByte digits b hlength hnumeral =>
      refine ⟨.byte b, rfl, fun rest => itemsAfter?_escape hescape ?_⟩
      apply (numberedByte_eq_some_iff (by decide) (by decide)).mpr
      exact ⟨(congrArg Nat.succ hlength).symm, digits, rest, b, rfl, hlength, hnumeral, rfl⟩
  | @octalByte digits b hlength hnumeral =>
      refine ⟨.byte b, rfl, fun rest => itemsAfter?_escape hescape ?_⟩
      cases digits with
      | nil => cases hlength
      | cons digit more =>
          rw [List.cons_append, escape?_octal hquote (head_mem_of_isNumeral hnumeral) (more ++ rest)]
          apply (numberedByte_eq_some_iff (by decide) (by decide)).mpr
          exact ⟨hlength.symm, digit :: more, rest, b, rfl, hlength, hnumeral, rfl⟩
  | @shortCode digits c hlength hnumeral =>
      refine ⟨.char c, rfl, fun rest => itemsAfter?_escape hescape ?_⟩
      apply (numberedChar_eq_some_iff (by decide) (by decide)).mpr
      exact ⟨(congrArg Nat.succ hlength).symm, digits, rest, c, rfl, hlength, hnumeral, rfl⟩
  | @longCode digits c hlength hnumeral =>
      refine ⟨.char c, rfl, fun rest => itemsAfter?_escape hescape ?_⟩
      apply (numberedChar_eq_some_iff (by decide) (by decide)).mpr
      exact ⟨(congrArg Nat.succ hlength).symm, digits, rest, c, rfl, hlength, hnumeral, rfl⟩

/-- The items of a body are read exactly if it is a row of them, with the bytes that it spells. -/
theorem exists_items_iff (body : List Char) (bytes : List UInt8) :
    (∃ items, itemsAfter? quote 0 body = some items ∧ items.flatMap Item.bytes = bytes) ↔
      SpellsAll quote body bytes := by
  constructor
  · rintro ⟨items, hitems, rfl⟩
    exact spellsAll_of_itemsAfter? hitems
  · intro h
    induction h with
    | nil => exact ⟨[], rfl, rfl⟩
    | @cons item rest bytes more h hrest ih =>
        obtain ⟨items, hitems, rfl⟩ := ih
        obtain ⟨i, rfl, hread⟩ := h.exists_item hquote
        refine ⟨i :: items, ?_, rfl⟩
        rw [hread, hitems, Option.map_some]

theorem unescape?_eq_some_iff (body : List Char) (s : String) :
    unescape? quote body = some s ↔ SpellsAll quote body (Text.utf8Bytes s) := by
  rw [← exists_items_iff hquote, unescape?, Option.bind_eq_some_iff]
  simp only [spelled?_eq_some_iff]

end Quotes

theorem between?_eq_some_iff (s body : List Char) (quote : Char) :
    between? s = some (quote, body) ↔ quote :: body ++ [quote] = s := by
  cases s with
  | nil => simp [between?]
  | cons first rest =>
      rw [between?]
      constructor
      · intro h
        split at h
        · next last hlast =>
            split at h
            · next hquote =>
                obtain ⟨rfl, rfl⟩ := Prod.mk.inj (Option.some.inj h)
                subst hquote
                rw [List.cons_append, List.dropLast_append_getLast? _ hlast]
            · cases h
        · cases h
      · intro h
        obtain ⟨rfl, rfl⟩ := List.cons.inj h
        simp

theorem value?_eq_some_iff (literal : List Char) (s : String) :
    value? literal = some s ↔ Denotes literal s := by
  rw [value?]
  constructor
  · intro h
    split at h
    · next body hbetween =>
        obtain rfl := (between?_eq_some_iff _ _ _).mp hbetween
        split at h
        · cases h
        · next hquote =>
            obtain rfl := Option.some.inj h
            exact .backQuoted hquote
    · next body hbetween =>
        obtain rfl := (between?_eq_some_iff _ _ _).mp hbetween
        exact .doubleQuoted ((unescape?_eq_some_iff (.inl rfl) _ _).mp h)
    · next body hbetween =>
        obtain rfl := (between?_eq_some_iff _ _ _).mp hbetween
        obtain ⟨hvalue, hlength⟩ := Option.filter_eq_some_iff.mp h
        rw [beq_iff_eq, ← String.length_toList] at hlength
        obtain ⟨c, hc⟩ := List.length_eq_one_iff.mp hlength
        obtain rfl : s = String.singleton c := by
          rw [← String.toList_inj, hc, String.toList_singleton]
        apply Denotes.singleQuoted
        simpa [Text.utf8Bytes_eq_flatMap] using (unescape?_eq_some_iff (.inr rfl) _ _).mp hvalue
    · cases h
  · intro h
    cases h with
    | @backQuoted body h =>
        rw [(between?_eq_some_iff _ _ _).mpr rfl]
        exact if_neg h
    | @doubleQuoted body s h =>
        rw [(between?_eq_some_iff _ _ _).mpr rfl]
        exact (unescape?_eq_some_iff (.inl rfl) _ _).mpr h
    | @singleQuoted body c h =>
        rw [(between?_eq_some_iff _ _ _).mpr rfl]
        have hvalue : unescape? '\'' body = some (String.singleton c) := by
          rw [unescape?_eq_some_iff (.inr rfl), Text.utf8Bytes_eq_flatMap]
          simpa using h
        simp [hvalue]

theorem trimmed_quoted {quote : Char} (h : Text.isBlank quote = false) (body : List Char) :
    Text.Trimmed (quote :: body ++ [quote]) where
  head? := by
    intro c hc
    cases hc
    exact h
  getLast? := by
    intro c hc
    rw [List.getLast?_concat, Option.mem_some_iff] at hc
    rw [← hc, h]

theorem Denotes.trimmed {literal : List Char} {s : String} (h : Denotes literal s) :
    Text.Trimmed literal := by
  cases h with
  | backQuoted => exact trimmed_quoted (by decide) _
  | doubleQuoted => exact trimmed_quoted (by decide) _
  | singleQuoted => exact trimmed_quoted (by decide) _

theorem denotes_trim_iff (raw s : String) : Denotes (Text.trim raw.toList) s ↔ StandsFor raw s := by
  constructor
  · intro h
    obtain ⟨-, before, after, hbefore, hafter, heq⟩ := (Text.trim_eq_iff _ _).mp rfl
    exact ⟨before, _, after, heq, hbefore, hafter, h⟩
  · rintro ⟨before, literal, after, heq, hbefore, hafter, h⟩
    have htrim : Text.trim raw.toList = literal :=
      (Text.trim_eq_iff _ _).mpr ⟨h.trimmed, before, after, hbefore, hafter, heq⟩
    rwa [htrim]

theorem unquote_eq_of_standsFor {raw s : String} (h : StandsFor raw s) : unquote raw = s := by
  rw [← denotes_trim_iff, ← value?_eq_some_iff] at h
  rw [unquote, h, Option.getD_some]

theorem unquote_eq_empty {raw : String} (h : ¬ ∃ s, StandsFor raw s) : unquote raw = "" := by
  have hnone : value? (Text.trim raw.toList) = none := by
    rw [Option.eq_none_iff_forall_not_mem]
    intro s hs
    exact h ⟨s, (denotes_trim_iff raw s).mp ((value?_eq_some_iff _ _).mp hs)⟩
  rw [unquote, hnone, Option.getD_none]

end SwaggerGen.Literal
