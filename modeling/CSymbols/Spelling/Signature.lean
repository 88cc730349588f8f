import CSymbols.Spelling.Declarator
import CSymbols.Spelling.ParameterList

/-! The return type and the parameter types that the spelling of a function type stands for. -/
namespace CSymbols.Spelling

/-- Return and parameter types of one function type. -/
structure Signature where
  returnType : String
  parameterTypes : List String
  deriving DecidableEq, Repr

/-- The text behind the first arrow `->`. -/
def afterArrow : List Char → Option (List Char)
  | '-' :: '>' :: rest => some rest
  | _ :: cs => afterArrow cs
  | [] => none

/-- The type after an arrow behind the parameter list, if it is not blank. -/
def trailingReturnType (trailing : List Char) : Option (List Char) :=
  ((afterArrow trailing).map Text.trim).filter (· != [])

/-- A function that spells its return type `auto` may declare it after an arrow. -/
def returnType (s : Stripped) : List Char :=
  let written := Text.trim s.returned
  if written == "auto".toList then (trailingReturnType s.trailing).getD written else written

/-- The signature that a spelling stands for; `none` without a parameter list or a return type. -/
def signature (spelling : List Char) : Except Fault (Option Signature) :=
  match strip (Text.trim spelling) with
  | .error fault => .error fault
  | .ok none => .ok none
  | .ok (some s) =>
    let returned := returnType s
    if returned == [] then .ok none
    else .ok (some ⟨String.ofList returned, (parameterTypes s.parameters).map String.ofList⟩)

/-- The signature that a string spells. -/
def splitFunctionType (spelling : String) : Except Fault (Option Signature) :=
  signature spelling.toList

end CSymbols.Spelling
