import CSymbols.Json.Basic
import CSymbols.Occurrence
import CSymbols.OrderedMap

/-! Symbol reports: the functions and variables that a source unit declares, by name. -/
namespace CSymbols

/-- A reported function. -/
structure FunctionDescriptor where
  name : String
  returnType : String
  parameterTypes : List String
  line : Nat
  deriving DecidableEq, Repr

/-- A reported variable; an object in the language of C. -/
structure ObjectDescriptor where
  name : String
  type : String
  line : Nat
  deriving DecidableEq, Repr

namespace FunctionDescriptor

/-- The parameter types under their positions, counted from zero. -/
def positioned (types : List String) : List (String × Json) :=
  types.zipIdx.map fun (t, i) => (Text.natText i, .text t)

/-- The parameters are left out if there are none. -/
def toJson (d : FunctionDescriptor) : Json :=
  .record ([("return", .text d.returnType)] ++
    (if d.parameterTypes = [] then []
      else [("parameters", .record (positioned d.parameterTypes))]) ++
    [("line", .nat d.line)])

end FunctionDescriptor

def ObjectDescriptor.toJson (d : ObjectDescriptor) : Json :=
  .record [("type", .text d.type), ("line", .nat d.line)]

/-- Names stand in the order in which they were first found; a later declaration of a name takes
the place of the earlier one. -/
structure Report where
  objects : OrderedMap ObjectDescriptor
  functions : OrderedMap FunctionDescriptor

namespace Report

def empty : Report := ⟨.empty, .empty⟩

/-- Enters a declaration that is bound to a function or a variable and has a line. -/
def record (r : Report) (o : Occurrence) : Report :=
  match o.role, o.binding, o.line with
  | .declaration, some (.function b), some line =>
    { r with functions := r.functions.insert o.name ⟨o.name, b.returnType, b.parameterTypes, line⟩ }
  | .declaration, some (.object b), some line =>
    { r with objects := r.objects.insert o.name ⟨o.name, b.type, line⟩ }
  | _, _, _ => r

def ofOccurrences (os : List Occurrence) : Report := os.foldl record empty

def isEmpty (r : Report) : Bool := r.functions.isEmpty && r.objects.isEmpty

def toJson (r : Report) : Json :=
  .record [("variables", .record (r.objects.entries.map fun e => (e.1, e.2.toJson))),
    ("functions", .record (r.functions.entries.map fun e => (e.1, e.2.toJson)))]

end Report
end CSymbols
