import CSymbols.FileSystem
import CSymbols.Json.Writer
import CSymbols.SourceUnit

/-! Reports on many files at once. -/
namespace CSymbols.Batch

/-- Takes up one path. Only a file counts; one that does not parse is left out. A report that cannot
be made ends the whole batch. -/
def add {σ : Type} (fs : FileSystem) (provider : Provider σ) (reports : OrderedMap Report)
    (path : String) : StateT σ (Except Spelling.Fault) (OrderedMap Report) := fun state =>
  match fs.bytes? path with
  | none => .ok (reports, state)
  | some bytes =>
    match (provider path (Text.Utf8.lossyText bytes)).run state with
    | (.error _, state) => .ok (reports, state)
    | (.ok unit, state) => unit.report.map fun report => (reports.insert path report, state)

/-- The reports on the files among some paths. -/
def extract {σ : Type} (fs : FileSystem) (provider : Provider σ) (paths : List String) :
    StateT σ (Except Spelling.Fault) (OrderedMap Report) :=
  paths.foldlM (add fs provider) .empty

/-- Several reports by their paths. -/
def toJson (reports : OrderedMap Report) : Json :=
  .record (reports.entries.map fun e => (e.1, e.2.toJson))

/-- The output for some paths: for a single one its report alone, if there is one. -/
def render (paths : List String) (reports : OrderedMap Report) : Option String :=
  match paths with
  | [path] => (reports.get? path).map fun r => r.toJson.pretty
  | _ => some (toJson reports).pretty

end CSymbols.Batch
