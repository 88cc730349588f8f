import CSymbols.Spelling.Signature
import CSymbols.Tree.Node

/-! What a declared name is bound to. -/
namespace CSymbols

/-- Storage class and linkage of a declaration. The flags are independent of each other. -/
structure Storage where
  isAuto : Bool := false
  isExtern : Bool := false
  isStatic : Bool := false
  isRegister : Bool := false
  isInline : Bool := false
  deriving DecidableEq, Repr

namespace Storage

def ofDeclaration (d : Tree.Declaration) : Storage where
  isAuto := d.storageClass == some "auto"
  isExtern := d.storageClass == some "extern"
  isStatic := d.storageClass == some "static"
  isRegister := d.storageClass == some "register"
  isInline := d.isInline

/-- The specifiers in front of a declaration, each with a space behind it. -/
def text (s : Storage) : String :=
  String.join (([(s.isAuto, "auto "), (s.isExtern, "extern "), (s.isStatic, "static "),
    (s.isRegister, "register "), (s.isInline, "inline ")].filter Prod.fst).map Prod.snd)

end Storage

structure FunctionBinding where
  returnType : String
  parameterTypes : List String
  storage : Storage
  deriving DecidableEq, Repr

structure VariableBinding where
  type : String
  /-- Never inline. -/
  storage : Storage
  deriving DecidableEq, Repr

inductive Binding where
  | function (b : FunctionBinding)
  | object (b : VariableBinding)
  | parameter (b : VariableBinding)
  /-- Types, templates and all else. -/
  | other
  deriving DecidableEq, Repr

/-- How a binding is reported. -/
inductive Classification where
  | function
  | object
  | skip
  deriving DecidableEq, Repr

namespace Binding

/-- The signature of the first spelling that has one. A function declared through an alias spells
only the alias; its signature is in the desugared type. -/
def signature (d : Tree.Declaration) : Except Spelling.Fault (Option Spelling.Signature) := do
  match ← (d.type.map Spelling.splitFunctionType).getD (.ok none) with
  | some s => return some s
  | none => (d.desugaredType.map Spelling.splitFunctionType).getD (.ok none)

def ofVariable? (d : Tree.Declaration) : Option VariableBinding :=
  d.type.map fun t => ⟨t, { Storage.ofDeclaration d with isInline := false }⟩

/-- The binding that a declaration makes; `none` if it lacks the type that its kind needs. -/
def resolve (d : Tree.Declaration) : Except Spelling.Fault (Option Binding) :=
  match d.kind with
  | .function | .method | .constructor | .destructor | .conversion =>
    (signature d).map fun s => s.map fun s =>
      .function ⟨s.returnType, s.parameterTypes, Storage.ofDeclaration d⟩
  | .object | .field | .variableTemplateSpecialization => .ok ((ofVariable? d).map .object)
  | .parameter => .ok ((ofVariable? d).map .parameter)
  | _ => .ok (some .other)

/-- Parameters are variables but are never reported. -/
def classify : Binding → Classification
  | function _ => .function
  | object _ => .object
  | parameter _ | other => .skip

end Binding
end CSymbols
