import SwaggerGen.Proofs.Description.Presentation
import SwaggerGen.Proofs.Format.Text

/-!
# Descriptions through their text

The compact text of a description is read back as the same description.
-/

namespace SwaggerGen

/-- The text of a description opens few containers inside one another. -/
theorem Api.depth_format_le_nestingLimit : Api.format.depth ≤ Json.nestingLimit := by decide

theorem Api.parse_toCompact (api : Api) : Api.parse api.toJson.toCompact = .ok api := by
  have hread := Api.format.read_write Json.Style.spaced_compact Api.lawful_format api
    Api.depth_format_le_nestingLimit 0 Json.isBlank_nil []
  rw [Api.parse, Format.parse, Json.toCompact, Api.toJson]
  apply Json.readText_eq_ok
  rw [String.toList_ofList]
  simpa using hread

/-- A text with a tree in it is read as a description exactly if the tree shows the description. -/
theorem Api.parse_eq_ok_iff_presents {text : String} {json : Json} (h : Json.parse text = .ok json)
    (api : Api) : Api.parse text = .ok api ↔ api.Presents json := by
  rw [Api.parse, Api.format.parse_eq_ok_iff_ofTree h, Format.ofTree_eq_ok_iff,
    Api.format.ofJson_eq_ok_iff .given Api.lawful_format, Api.presents_format]

/-- Every description is read back from its compact text, so that a text which holds a description can
be read, written and read again without a change. -/
theorem Api.parse_inverts_toCompact :
    (∀ api : Api, Api.parse api.toJson.toCompact = .ok api) ∧
      ∀ text, (do Api.parse (← Api.parse text).toJson.toCompact) = Api.parse text := by
  refine ⟨Api.parse_toCompact, fun text => ?_⟩
  rw [funext Api.parse_toCompact]
  exact bind_pure (Api.parse text)

end SwaggerGen
