import Mathlib.Data.List.Forall2
import SwaggerGen.Proofs.Tag.Entry
import SwaggerGen.Proofs.Text.Trim

/-!
# Tags with one option more

An option with a name of no meaning may be put behind the name of any tag. The tags of the text are then
alike in all that is asked about them, except whether there is any option at all.
-/

namespace SwaggerGen

/-- Whether a text is an option whose name is neither `default` nor `optional`. -/
structure IsUnknownOption (s : List Char) : Prop where
  not_blank : ∃ c ∈ s, Text.isBlank c = false
  comma_not_mem : ',' ∉ s
  quote_not_mem : '"' ∉ s
  name_ne_default : (TagOption.ofText (Text.trim s)).name ≠ "default"
  name_ne_optional : (TagOption.ofText (Text.trim s)).name ≠ "optional"

instance (s : List Char) : Decidable (IsUnknownOption s) :=
  have : Decidable (∃ c ∈ s, Text.isBlank c = false) := List.decidableBEx _ s
  decidable_of_iff ((∃ c ∈ s, Text.isBlank c = false) ∧ ',' ∉ s ∧ '"' ∉ s ∧
      (TagOption.ofText (Text.trim s)).name ≠ "default" ∧
      (TagOption.ofText (Text.trim s)).name ≠ "optional")
    ⟨fun ⟨hblank, hcomma, hquote, hdefault, hoptional⟩ =>
        ⟨hblank, hcomma, hquote, hdefault, hoptional⟩,
      fun h => ⟨h.not_blank, h.comma_not_mem, h.quote_not_mem, h.name_ne_default,
        h.name_ne_optional⟩⟩

/-- A tag body, and the body with an unknown option more behind one of its pieces. -/
inductive ExtendsBody : List Char → List Char → Prop
  | last (body option : List Char) (h : IsUnknownOption option) :
      ExtendsBody body (body ++ ',' :: option)
  | between (left option right : List Char) (h : IsUnknownOption option) :
      ExtendsBody (left ++ ',' :: right) (left ++ ',' :: option ++ ',' :: right)

namespace Tag

/-- Whether a tag reads like another one, which has options if this one has any. -/
structure Alike (tag other : Tag) : Prop where
  key_eq : other.key = tag.key
  name_eq : other.name = tag.name
  isOptional_eq : other.isOptional = tag.isOptional
  default?_eq : other.default? = tag.default?
  hasOptions_of_hasOptions : tag.hasOptions → other.hasOptions

theorem Alike.refl (tag : Tag) : tag.Alike tag := ⟨rfl, rfl, rfl, rfl, id⟩

theorem default?_eq_none_of_name_ne {option : TagOption} (h : option.name ≠ "default") :
    option.default? = none := by
  cases option with
  | flag text => rfl
  | pair key value => exact if_neg h

theorem alike_of_options {tag other : Tag} {before after : List TagOption} {option : TagOption}
    (hkey : other.key = tag.key) (hname : other.name = tag.name) (h : tag.options = before ++ after)
    (hother : other.options = before ++ option :: after) (hdefault : option.name ≠ "default")
    (hoptional : option.name ≠ "optional") : tag.Alike other where
  key_eq := hkey
  name_eq := hname
  isOptional_eq := by
    have hname : (option.name == "optional") = false := by simpa using hoptional
    rw [isOptional, isOptional, h, hother, List.any_append, List.any_append, List.any_cons, hname,
      Bool.false_or]
  default?_eq := by
    rw [default?, default?, h, hother]
    simp [default?_eq_none_of_name_ne hdefault]
  hasOptions_of_hasOptions := by
    intro _
    simp [hasOptions, hother]

/-- An extended body has the pieces of the body with the option among them, behind the first. -/
theorem pieces_of_extendsBody {body extended : List Char} (h : ExtendsBody body extended) :
    ∃ front option back, front ≠ [] ∧ IsUnknownOption option ∧ pieces body = front ++ back ∧
      pieces extended = front ++ Text.trim option :: back := by
  have hfront : ∀ left, pieces left ≠ [] := by
    intro left
    rw [pieces, Ne, List.map_eq_nil_iff]
    exact List.splitOn_ne_nil ',' left
  cases h with
  | last _ option h =>
      refine ⟨pieces body, option, [], hfront body, h, by rw [List.append_nil], ?_⟩
      rw [pieces, List.splitOn_append_cons_self, List.splitOn_eq_singleton h.comma_not_mem,
        List.map_append, List.map_singleton, pieces]
  | between left option right h =>
      refine ⟨pieces left, option, pieces right, hfront left, h, ?_, ?_⟩
      · rw [pieces, List.splitOn_append_cons_self, List.map_append, pieces, pieces]
      · rw [List.append_assoc, List.cons_append, pieces, List.splitOn_append_cons_self,
          List.splitOn_append_cons_self_of_not_mem h.comma_not_mem, List.map_append, List.map_cons,
          pieces, pieces]

theorem alike_ofBody (key : String) {body extended : List Char} (h : ExtendsBody body extended) :
    (ofBody key body).Alike (ofBody key extended) := by
  obtain ⟨front, option, back, hfront, hoption, hbody, hextended⟩ := pieces_of_extendsBody h
  have hkept : Text.trim option ≠ [] := by
    intro hnil
    obtain ⟨c, hc, hblank⟩ := hoption.not_blank
    rw [Text.trim_eq_nil_iff] at hnil
    rw [hnil c hc] at hblank
    cases hblank
  obtain ⟨name, more, rfl⟩ := List.exists_cons_of_ne_nil hfront
  have hname : (ofBody key extended).name = (ofBody key body).name := by
    rw [ofBody, ofBody, hbody, hextended]
    rfl
  have hbefore : (ofBody key body).options =
      (more.filter (· ≠ [])).map TagOption.ofText ++ (back.filter (· ≠ [])).map TagOption.ofText := by
    rw [ofBody, hbody, List.cons_append, List.tail_cons, List.filter_append, List.map_append]
  have hafter : (ofBody key extended).options = (more.filter (· ≠ [])).map TagOption.ofText ++
      TagOption.ofText (Text.trim option) :: (back.filter (· ≠ [])).map TagOption.ofText := by
    rw [ofBody, hextended, List.cons_append, List.tail_cons, List.filter_append,
      List.filter_cons_of_pos (by simpa using hkept), List.map_append, List.map_cons]
  exact alike_of_options rfl hname hbefore hafter hoption.name_ne_default hoption.name_ne_optional

end Tag

namespace TagEntry

/-- A tag text, and the text with an unknown option more in one of the entries that are found in it,
one with a key that makes a parameter or a property. -/
inductive ExtraOption : List Char → List Char → Prop
  | here (entry : TagEntry) {extended : List Char} (hlegal : entry.Legal)
      (hkey : String.ofList entry.key ∈ [Tag.jsonKey, Tag.formKey, Tag.headerKey])
      (h : ExtendsBody entry.body extended) (rest : List Char) :
      ExtraOption (entry.text ++ rest) (text ⟨entry.key, extended⟩ ++ rest)
  | behindEntry (entry : TagEntry) (hlegal : entry.Legal) {s t : List Char} (h : ExtraOption s t) :
      ExtraOption (entry.text ++ s) (entry.text ++ t)
  | behindCharacter {c : Char} {s t : List Char}
      (hnone : ¬ ∃ entry : TagEntry, entry.Legal ∧ entry.text <+: c :: s) (h : ExtraOption s t) :
      ExtraOption (c :: s) (c :: t)

theorem legal_of_extendsBody {entry : TagEntry} {extended : List Char} (hlegal : entry.Legal)
    (h : ExtendsBody entry.body extended) : Legal ⟨entry.key, extended⟩ where
  key := hlegal.key
  quote_not_mem := by
    have hbody := hlegal.quote_not_mem
    obtain ⟨key, body⟩ := entry
    cases h with
    | last _ _ h => simpa [h.quote_not_mem] using hbody
    | between _ _ _ h => simpa [h.quote_not_mem] using hbody

namespace ExtraOption

variable {s t : List Char}

/-- The two texts agree up to the opening quote of the entry, and a quote follows in both. -/
theorem exists_common (h : ExtraOption s t) :
    ∃ before behind other, s = before ++ ':' :: '"' :: behind ∧ t = before ++ ':' :: '"' :: other ∧
      '"' ∈ behind ∧ '"' ∈ other := by
  induction h with
  | here _ hlegal hkey h rest =>
      exact ⟨_, _, _, text_append _ _, text_append _ _, by simp, by simp⟩
  | @behindEntry entry hlegal s t h ih =>
      obtain ⟨before, behind, other, rfl, rfl, hbehind, hother⟩ := ih
      exact ⟨entry.text ++ before, behind, other, by simp, by simp, hbehind, hother⟩
  | @behindCharacter c s t hnone h ih =>
      obtain ⟨before, behind, other, rfl, rfl, hbehind, hother⟩ := ih
      exact ⟨c :: before, behind, other, by simp, by simp, hbehind, hother⟩

/-- Where no entry begins, none begins in the extended text. -/
theorem not_begins {c : Char} (h : ExtraOption s t)
    (hnone : ¬ ∃ entry : TagEntry, entry.Legal ∧ entry.text <+: c :: s) :
    ¬ ∃ entry : TagEntry, entry.Legal ∧ entry.text <+: c :: t := by
  obtain ⟨before, behind, other, rfl, rfl, hbehind, hother⟩ := h.exists_common
  rw [← List.cons_append] at hnone ⊢
  rw [exists_prefix_iff_opens hbehind] at hnone
  rwa [exists_prefix_iff_opens hother]

theorem forall₂_scan (h : ExtraOption s t) :
    List.Forall₂ (fun entry other => entry.tag.Alike other.tag) (scan s) (scan t) := by
  have hrefl : ∀ entries : List TagEntry,
      List.Forall₂ (fun entry other => entry.tag.Alike other.tag) entries entries :=
    fun entries => List.forall₂_same.mpr fun entry _ => Tag.Alike.refl entry.tag
  induction h with
  | here _ hlegal hkey h rest =>
      rw [scan_text_append hlegal, scan_text_append (legal_of_extendsBody hlegal h)]
      exact .cons (Tag.alike_ofBody _ h) (hrefl _)
  | @behindEntry entry hlegal s t h ih =>
      rw [scan_text_append hlegal, scan_text_append hlegal]
      exact .cons (Tag.Alike.refl entry.tag) ih
  | behindCharacter hnone h ih =>
      rw [scan_cons_of_not_begins hnone, scan_cons_of_not_begins (h.not_begins hnone)]
      exact ih

end ExtraOption

end TagEntry

end SwaggerGen
