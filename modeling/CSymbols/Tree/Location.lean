/-! Places in source files, as a syntax tree names them. -/
namespace CSymbols.Tree

/-- Where a token stands. -/
structure Place where
  offset : Nat
  file : String
  line : Nat
  column : Nat
  length : Nat
  deriving DecidableEq, Repr

/-- The location of a node. -/
inductive Location where
  | absent
  | plain (place : Place)
  /-- Text that came from a macro: where it is written, and where the macro is used. -/
  | expanded (spelling expansion : Place)
  deriving DecidableEq, Repr

/-- The place that a reader of the source sees: for text from a macro, where the macro is used. -/
def Location.place? : Location → Option Place
  | absent => none
  | plain place => some place
  | expanded _ expansion => some expansion

/-- The extent of a node. -/
structure Range where
  start : Location
  stop : Location
  deriving DecidableEq, Repr

end CSymbols.Tree
