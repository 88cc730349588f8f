import CSymbols.Tree.Location

/-! Syntax trees. A tree tells declarations and references apart from all other nodes, whose
locations and children are all that is kept of them. -/
namespace CSymbols.Tree

inductive DeclarationKind where
  | function
  | method
  | constructor
  | destructor
  | conversion
  | object
  | field
  | parameter
  | functionTemplate
  | classTemplate
  | variableTemplate
  | classTemplateSpecialization
  | variableTemplateSpecialization
  deriving DecidableEq, Repr

inductive ReferenceKind where
  /-- The use of a declared name. -/
  | name
  /-- The selection of a member. -/
  | member
  deriving DecidableEq, Repr

/-- The kind of a node. -/
inductive Kind where
  | declaration (kind : DeclarationKind)
  | reference (kind : ReferenceKind)
  | other
  deriving DecidableEq, Repr

/-- The kinds that have a name of their own. -/
def kindNames : List (String × Kind) :=
  [("FunctionDecl", .declaration .function),
   ("CXXMethodDecl", .declaration .method),
   ("CXXConstructorDecl", .declaration .constructor),
   ("CXXDestructorDecl", .declaration .destructor),
   ("CXXConversionDecl", .declaration .conversion),
   ("VarDecl", .declaration .object),
   ("FieldDecl", .declaration .field),
   ("ParmVarDecl", .declaration .parameter),
   ("FunctionTemplateDecl", .declaration .functionTemplate),
   ("ClassTemplateDecl", .declaration .classTemplate),
   ("VarTemplateDecl", .declaration .variableTemplate),
   ("ClassTemplateSpecializationDecl", .declaration .classTemplateSpecialization),
   ("VarTemplateSpecializationDecl", .declaration .variableTemplateSpecialization),
   ("DeclRefExpr", .reference .name),
   ("MemberExpr", .reference .member)]

/-- The kind that a document names; any other name is of no interest. -/
def Kind.ofName (name : String) : Kind := (kindNames.lookup name).getD .other

def DeclarationKind.isFunction : DeclarationKind → Bool
  | function | method | constructor | destructor | conversion => true
  | _ => false

structure Declaration where
  kind : DeclarationKind
  name : Option String
  location : Location
  range : Option Range
  isImplicit : Bool
  /-- The type as the source spells it. -/
  type : Option String
  /-- The type without its aliases, where that differs. -/
  desugaredType : Option String
  storageClass : Option String
  isInline : Bool
  deriving DecidableEq, Repr

structure Reference where
  kind : ReferenceKind
  /-- The name of the declaration that is referred to. -/
  target : Option String
  /-- The name in the reference itself. -/
  name : Option String
  location : Location
  range : Option Range
  isImplicit : Bool
  deriving DecidableEq, Repr

/-- A node that neither declares nor refers. -/
structure Other where
  location : Location
  range : Option Range
  isImplicit : Bool
  deriving DecidableEq, Repr

/-- What a node says, apart from its children. -/
inductive Content where
  | declaration (d : Declaration)
  | reference (r : Reference)
  | other (o : Other)
  deriving DecidableEq, Repr

namespace Content

def location : Content → Location
  | declaration d => d.location
  | reference r => r.location
  | other o => o.location

/-- Whether the compiler made the node up. -/
def isImplicit : Content → Bool
  | declaration d => d.isImplicit
  | reference r => r.isImplicit
  | other o => o.isImplicit

/-- The kind of a declaration. -/
def declarationKind? : Content → Option DeclarationKind
  | declaration d => some d.kind
  | _ => none

end Content

inductive Node where
  | mk (content : Content) (children : List Node)
  deriving Repr

namespace Node

def content : Node → Content
  | mk content _ => content

def children : Node → List Node
  | mk _ children => children

end Node
end CSymbols.Tree
