import SwaggerGen.Text.Replace

/-!
# Decorations of type names

A declared name may carry brackets and stars: `[]T`, `*T`, `[]*T`. Two readings take them off: the
undecorated name that a definition is filed under, and the element name with every `[]` removed.
-/

namespace SwaggerGen

/-- The characters that remain when each `[]` is taken out, in one pass from the left. -/
def dropSlices : List Char → List Char
  | '[' :: ']' :: rest => dropSlices rest
  | c :: rest => c :: dropSlices rest
  | [] => []

/-- The type name with every `[]` removed; what the removal brings together stays. -/
def elementName (typeName : String) : String := String.ofList (dropSlices typeName.toList)

/-- The type name without its first `[`, its first `]` and its first `*`. -/
def undecoratedName (typeName : String) : String :=
  String.ofList (((typeName.toList.erase '[').erase ']').erase '*')

/-- A name with neither bracket nor star is its own undecorated name. -/
theorem undecoratedName_eq_self (typeName : String) (hopen : '[' ∉ typeName.toList)
    (hclose : ']' ∉ typeName.toList) (hstar : '*' ∉ typeName.toList) :
    undecoratedName typeName = typeName := by
  rw [undecoratedName, List.erase_of_not_mem hopen, List.erase_of_not_mem hclose,
    List.erase_of_not_mem hstar, String.ofList_toList]

def definitionRef (name : String) : String := "#/definitions/" ++ name

theorem definitionRef_injective (a b : String) (h : definitionRef a = definitionRef b) : a = b := by
  have hl := congrArg String.toList h
  simp only [definitionRef, String.toList_append, List.append_cancel_left_eq] at hl
  exact String.toList_inj.mp hl

end SwaggerGen
