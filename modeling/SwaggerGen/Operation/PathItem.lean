import SwaggerGen.Operation.Basic

/-!
# Path items

The operations at one path, at most one for each of the four methods.
-/

namespace SwaggerGen

inductive Method where
  | get
  | post
  | put
  | delete
  deriving DecidableEq, Repr, Inhabited

namespace Method

def name : Method → String
  | get => "Get"
  | post => "Post"
  | put => "Put"
  | delete => "Delete"

/-- The method that a word names, whatever the case of its ASCII letters. -/
def ofText? (text : String) : Option Method :=
  let word := text.toList.map Char.toLower
  if word = "get".toList then some get
  else if word = "post".toList then some post
  else if word = "put".toList then some put
  else if word = "delete".toList then some delete
  else none

end Method

structure PathItem where
  get : Option Operation
  post : Option Operation
  put : Option Operation
  delete : Option Operation
  deriving Inhabited

namespace PathItem

def empty : PathItem := ⟨none, none, none, none⟩

def operation? (item : PathItem) : Method → Option Operation
  | .get => item.get
  | .post => item.post
  | .put => item.put
  | .delete => item.delete

def assign (item : PathItem) (method : Method) (op : Operation) : PathItem :=
  match method with
  | .get => { item with get := some op }
  | .post => { item with post := some op }
  | .put => { item with put := some op }
  | .delete => { item with delete := some op }

theorem operation?_assign (item : PathItem) (method other : Method) (op : Operation) :
    (item.assign method op).operation? other =
      if other = method then some op else item.operation? other := by
  cases method <;> cases other <;> rfl

@[simp] theorem operation?_empty (method : Method) : empty.operation? method = none := by
  cases method <;> rfl

def toJson (item : PathItem) : Json :=
  .object (Json.optionalField "get" Operation.toJson item.get ++
    Json.optionalField "post" Operation.toJson item.post ++
    Json.optionalField "put" Operation.toJson item.put ++
    Json.optionalField "delete" Operation.toJson item.delete)

end PathItem

end SwaggerGen
