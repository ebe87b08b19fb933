import SwaggerGen.Proofs.Parameter.Origin
import SwaggerGen.Proofs.Tag.Rendering
import SwaggerGen.Schema.Member

/-!
# Defaults

The default of a property or a parameter is told by the text in the first tag for it. Among the pieces
behind the name, the last one of the form `default=value` with no further `=` counts, and its value is
taken over as it stands.
-/

namespace SwaggerGen

/-- Whether a piece of a tag body gives a value as the default. -/
def GivesDefault (value piece : List Char) : Prop := piece = "default=".toList ++ value ∧ '=' ∉ value

/-- Whether a value is the last one that some pieces give as the default. -/
def IsLastDefault (value : List Char) (pieces : List (List Char)) : Prop :=
  ∃ before piece after, pieces = before ++ piece :: after ∧ GivesDefault value piece ∧
    ∀ other ∈ after, ∀ later, ¬ GivesDefault later other

theorem TagOption.default?_ofText_eq_some_iff (piece : List Char) (value : String) :
    (ofText piece).default? = some value ↔ GivesDefault value.toList piece := by
  rw [ofText]
  constructor
  · intro h
    split at h
    · next key value' hsplit =>
        obtain ⟨rfl, -, hvalue⟩ := (Text.splitOn_eq_pair_iff _ _ _ _).mp hsplit
        rw [default?] at h
        split at h
        · next hkey =>
            obtain rfl := Option.some.inj h
            rw [← String.toList_inj, String.toList_ofList] at hkey
            rw [hkey, String.toList_ofList]
            exact ⟨rfl, hvalue⟩
        · cases h
    · cases h
  · rintro ⟨rfl, hvalue⟩
    have hsplit : ("default=".toList ++ value.toList).splitOn '=' = ["default".toList, value.toList] :=
      (Text.splitOn_eq_pair_iff _ _ _ _).mpr ⟨rfl, by decide, hvalue⟩
    rw [hsplit]
    simp [default?]

theorem TagOption.default?_ofText_eq_none_iff (piece : List Char) :
    (ofText piece).default? = none ↔ ∀ value, ¬ GivesDefault value piece := by
  rw [Option.eq_none_iff_forall_ne_some]
  constructor
  · intro h value hvalue
    refine h (String.ofList value) ((default?_ofText_eq_some_iff _ _).mpr ?_)
    rwa [String.toList_ofList]
  · exact fun h value hvalue => h _ ((default?_ofText_eq_some_iff _ _).mp hvalue)

theorem findSome?_reverse_eq_some_iff {α β : Type} {f : α → Option β} {l : List α} {b : β} :
    l.reverse.findSome? f = some b ↔
      ∃ before a after, l = before ++ a :: after ∧ f a = some b ∧ ∀ other ∈ after, f other = none := by
  rw [List.findSome?_eq_some_iff]
  constructor
  · rintro ⟨after, a, before, hl, ha, hafter⟩
    rw [List.reverse_eq_iff] at hl
    exact ⟨before.reverse, a, after.reverse, by simp [hl], ha, by simpa using hafter⟩
  · rintro ⟨before, a, after, rfl, ha, hafter⟩
    exact ⟨after.reverse, a, before.reverse, by simp, ha, by simpa using hafter⟩

theorem findSome?_filter {α β : Type} {f : α → Option β} {p : α → Bool}
    (h : ∀ a, p a = false → f a = none) (l : List α) : (l.filter p).findSome? f = l.findSome? f := by
  induction l with
  | nil => rfl
  | cons a rest ih =>
      cases hp : p a with
      | true => rw [List.filter_cons_of_pos hp, List.findSome?_cons, List.findSome?_cons, ih]
      | false =>
          rw [List.filter_cons_of_neg (by simp [hp]), ih, List.findSome?_cons_of_isNone]
          simp [h a hp]

namespace Tag

theorem default?_ofBody (key : String) (body : List Char) :
    (ofBody key body).default? =
      (pieces body).tail.reverse.findSome? fun piece => (TagOption.ofText piece).default? := by
  -- the pieces that are dropped give no default anyway
  have hempty : ∀ piece : List Char, decide (piece ≠ []) = false →
      (TagOption.ofText piece).default? = none := by
    intro piece hpiece
    obtain rfl : piece = [] := by simpa using hpiece
    rfl
  rw [default?, ofBody, ← List.map_reverse, List.findSome?_map, ← List.filter_reverse]
  exact findSome?_filter hempty _

theorem default?_ofBody_eq_some_iff (key : String) (body : List Char) (value : String) :
    (ofBody key body).default? = some value ↔ IsLastDefault value.toList (pieces body).tail := by
  rw [default?_ofBody, findSome?_reverse_eq_some_iff, IsLastDefault]
  simp only [TagOption.default?_ofText_eq_some_iff, TagOption.default?_ofText_eq_none_iff]

end Tag

/-- Whether a body is that of the first entry with a key which is found in a tag text. -/
def IsFirstBody (raw key : String) (body : List Char) : Prop :=
  ∃ before entry after, TagEntry.scan raw.toList = before ++ entry :: after ∧
    entry.key = key.toList ∧ entry.body = body ∧ ∀ other ∈ before, other.key ≠ key.toList

namespace Member

/-- Whether a value is the last default in the first tag of a member with a key. -/
def LastDefault (m : Member) (key value : String) : Prop :=
  ∃ body, IsFirstBody m.tag key body ∧
    IsLastDefault value.toList ((body.splitOn ',').tail.map Text.trim)

/-- Whether the parameters of a member at a location carry the last default of a tag key, and one is
there to carry it unless the member is in the path. -/
structure CarriesDefault (m : Member) (requestName : String) (location : Location) (key : String) :
    Prop where
  default_eq_some_iff : ∀ p ∈ m.requestParameters requestName, p.location = location →
    ∀ value, p.default = some value ↔ m.LastDefault key value
  exists_parameter : ∀ value, m.LastDefault key value → ¬ m.hasTag Tag.pathKey →
    ∃ p ∈ m.requestParameters requestName, p.location = location ∧ p.default = some value

variable (m : Member) (requestName : String)

theorem tag?_eq_some_iff_isFirstBody (key : String) (tag : Tag) :
    m.tag? key = some tag ↔ ∃ body, IsFirstBody m.tag key body ∧ Tag.ofBody key body = tag := by
  have hkey (entry : TagEntry) : ((entry.tag.key == key) = true) = (entry.key = key.toList) := by
    rw [TagEntry.tag, Tag.key_ofBody, beq_iff_eq, ← String.toList_inj, String.toList_ofList]
  have htag (entry : TagEntry) (h : entry.key = key.toList) : entry.tag = Tag.ofBody key entry.body := by
    rw [TagEntry.tag, h, String.ofList_toList]
  rw [tag?, tags, Tag.ofText, List.find?_map, Option.map_eq_some_iff]
  simp only [List.find?_eq_some_iff_append, Function.comp_apply, Bool.not_eq_true', ← Bool.not_eq_true,
    hkey]
  constructor
  · rintro ⟨entry, ⟨hentry, before, after, hscan, hbefore⟩, rfl⟩
    exact ⟨entry.body, ⟨before, entry, after, hscan, hentry, rfl, hbefore⟩, (htag entry hentry).symm⟩
  · rintro ⟨body, ⟨before, entry, after, hscan, hentry, rfl, hbefore⟩, rfl⟩
    exact ⟨entry, ⟨hentry, before, after, hscan, hbefore⟩, htag entry hentry⟩

theorem default?_tag?_eq_some_iff (key value : String) :
    (m.tag? key).bind Tag.default? = some value ↔ m.LastDefault key value := by
  rw [Option.bind_eq_some_iff, LastDefault]
  constructor
  · rintro ⟨tag, htag, hdefault⟩
    obtain ⟨body, hbody, rfl⟩ := (m.tag?_eq_some_iff_isFirstBody key tag).mp htag
    rw [Tag.default?_ofBody_eq_some_iff, Tag.pieces, ← List.map_tail] at hdefault
    exact ⟨body, hbody, hdefault⟩
  · rintro ⟨body, hbody, hdefault⟩
    refine ⟨_, (m.tag?_eq_some_iff_isFirstBody key _).mpr ⟨body, hbody, rfl⟩, ?_⟩
    rwa [Tag.default?_ofBody_eq_some_iff, Tag.pieces, ← List.map_tail]

theorem carriesDefault {location : Location} {key : String} (h : location.ReadBy key) :
    m.CarriesDefault requestName location key where
  default_eq_some_iff p hp hlocation value := by
    obtain ⟨-, tag, htag, rfl⟩ :=
      (mem_requestParameters_and_location_iff h).mp ⟨hp, hlocation⟩
    rw [← default?_tag?_eq_some_iff, htag]
    rfl
  exists_parameter value hvalue hpath := by
    rw [← default?_tag?_eq_some_iff, Option.bind_eq_some_iff] at hvalue
    obtain ⟨tag, htag, hdefault⟩ := hvalue
    obtain ⟨hp, hlocation⟩ := (mem_requestParameters_and_location_iff h).mpr ⟨hpath, tag, htag, rfl⟩
    exact ⟨_, hp, hlocation, hdefault⟩

/-- The default of a member's property, of its query parameter and of its header parameter is the last
one that the first tag for it gives, and there is none without such a tag. -/
theorem default_eq_some_iff_last (m : Member) (requestName : String) :
    (∀ value, m.schema.default = some value ↔ m.LastDefault Tag.jsonKey value) ∧
      m.CarriesDefault requestName .query Tag.formKey ∧
      m.CarriesDefault requestName .header Tag.headerKey :=
  ⟨m.default?_tag?_eq_some_iff Tag.jsonKey, m.carriesDefault requestName .query,
    m.carriesDefault requestName .header⟩

def sizeMember : Member where
  name := "Size"
  typeName := "int"
  tag := "json:\"size,default=1,default= 5 ,default=2=3\" form:\",default=7,default=\" form:\"s\""
  comment := ""

theorem default_sizeMember :
    sizeMember.schema.default = some " 5" ∧ sizeMember.LastDefault Tag.jsonKey " 5" ∧
      (∃ p ∈ sizeMember.requestParameters "Page", p.location = .query ∧ p.default = some "") ∧
      sizeMember.LastDefault Tag.formKey "" ∧ ¬ sizeMember.LastDefault Tag.formKey "7" := by
  obtain ⟨hjson, hquery, -⟩ := default_eq_some_iff_last sizeMember "Page"
  have hdefault : sizeMember.schema.default = some " 5" := by decide
  have hparameter : ∃ p ∈ sizeMember.requestParameters "Page",
      p.location = .query ∧ p.default = some "" := by decide
  refine ⟨hdefault, (hjson _).mp hdefault, hparameter, ?_, ?_⟩
  · obtain ⟨p, hp, hlocation, hvalue⟩ := hparameter
    exact (hquery.default_eq_some_iff p hp hlocation "").mp hvalue
  · obtain ⟨p, hp, hlocation, hvalue⟩ := hparameter
    rw [← hquery.default_eq_some_iff p hp hlocation, hvalue]
    decide

end Member

end SwaggerGen
