import SwaggerGen.Document.Build
import SwaggerGen.Proofs.Document.Texts
import SwaggerGen.Proofs.Schema.Definitions
import SwaggerGen.Proofs.Text.Utf8Order

/-!
# Declared types in a document

Every declared type has its definition in the document, in whatever calls the types come; the texts of
definitions name them in increasing order of their bytes.
-/

namespace SwaggerGen

namespace Definitions

theorem numberFree_toJson (definitions : Definitions) : definitions.toJson.NumberFree :=
  numberFree_map_entries Schema.numberFree_toJson definitions.toList

/-- Whether all three texts of definitions hold one object, whose keys are the names of the definitions
and stand in strictly increasing order of their bytes. -/
def TextsInByteOrder (definitions : Definitions) : Prop :=
  ∃ fields, fields.map Prod.fst = definitions.keys ∧
    (fields.map Prod.fst).Pairwise (fun a b => Text.utf8Bytes a < Text.utf8Bytes b) ∧
    Json.ofText definitions.toJson.toCompact = .ok (.object fields) ∧
    Json.ofText definitions.toJson.toPretty = .ok (.object fields) ∧
    Yaml.ofText definitions.toJson.toYaml = some (.object fields)

theorem textsInByteOrder (definitions : Definitions) : definitions.TextsInByteOrder := by
  have hkeys : (definitions.toList.map fun entry => (entry.1, entry.2.toJson)).map Prod.fst =
      definitions.keys := by
    rw [List.map_map]
    rfl
  refine ⟨_, hkeys, ?_, ?_, ?_, ?_⟩
  · rw [hkeys, SortedMap.keys]
    exact definitions.sorted.map Prod.fst fun a b h => Text.utf8Bytes_lt h
  · exact Json.ofText_write Json.Style.spaced_compact definitions.numberFree_toJson
  · exact Json.ofText_write Json.Style.spaced_pretty definitions.numberFree_toJson
  · exact Yaml.ofText_toYaml definitions.numberFree_toJson

/-- What any sequence of calls leaves definitions as: the names of all types and of what was there, the
definition of the last type of each name, and all else as it was. From nothing, every definition is an
object with its name as the title, the texts are in the order of bytes, and so a document has the
definition of each declared type. -/
theorem added_iff_eq_foldl_addAll :
    (∀ (before after : Definitions) (calls : List (List StructType)),
      Added before calls.flatten after ↔ after = calls.foldl addAll before) ∧
    (∀ calls : List (List StructType),
      (∀ entry ∈ (calls.foldl addAll .empty).toList,
        entry.2.type = "object" ∧ entry.2.title = entry.1) ∧
      (calls.foldl addAll .empty).TextsInByteOrder) ∧
    ∀ api : Api, Added .empty api.types api.document.definitions ∧
      ∀ type ∈ api.types, type.name ∈ api.document.definitions.keys := by
  refine ⟨fun before after calls => ?_, fun calls => ⟨fun entry hentry => ?_, ?_⟩, fun api => ?_⟩
  · rw [foldl_addAll_eq_addAll_flatten, added_iff_eq_addAll]
  · rw [foldl_addAll_eq_addAll_flatten] at hentry
    obtain ⟨type, -, rfl⟩ := exists_type_of_mem_addAll hentry
    exact ⟨rfl, rfl⟩
  · exact textsInByteOrder _
  · have hadded : Added .empty api.types api.document.definitions := added_addAll .empty api.types
    exact ⟨hadded, fun type htype => (hadded.mem_keys_iff type.name).mpr (.inr ⟨type, htype, rfl⟩)⟩

/-- Of two types of one name the later counts, also across calls, and the names come in order. -/
theorem keys_foldl_addAll_two_calls :
    let calls : List (List StructType) :=
      [[⟨"User", [⟨"Id", "int", "json:\"id\"", ""⟩]⟩, ⟨"Zebra", []⟩, ⟨"Ärger", []⟩], [⟨"User", []⟩]]
    (calls.foldl addAll .empty).keys = ["User", "Zebra", "Ärger"] ∧
      (calls.foldl addAll .empty).get? "User" = some (StructType.definition ⟨"User", []⟩) := by
  intro calls
  obtain ⟨hcalls, -⟩ := added_iff_eq_foldl_addAll
  refine ⟨by decide, ?_⟩
  have hadded := (hcalls .empty _ calls).mpr rfl
  exact hadded.get?_last (calls.flatten.take 3) ⟨"User", []⟩ [] rfl nofun

end Definitions

end SwaggerGen
