import CSymbols.Json.Basic
import CSymbols.Session

/-! Messages of the gateway: requests, and what they are answered with. The objects in them have
their members in the order of the fields; as values they mean the same in any other order. -/
namespace CSymbols.Gateway

/-- An error that answers a request. -/
structure Error where
  code : Int
  message : String
  data : Option Json := none

namespace Error

def notReady : Error := ⟨-32002, "Server not initialized", none⟩

def invalidRequest : Error := ⟨-32600, "Invalid request", none⟩

def unknownMethod (method : String) : Error := ⟨-32601, "Method not found", some (.text method)⟩

/-- The method is known, but nothing here serves it. -/
def unserved : Error := ⟨-32601, "Method not found", none⟩

def invalidParams (message : String) : Error := ⟨-32602, message, none⟩

/-- The work on a request was aborted; the text says what is known of that. -/
def aborted (task text : String) : Error := ⟨-32603, task ++ " task failed: " ++ text, none⟩

end Error

/-- A request; without an identity it expects no answer. -/
structure Request where
  method : String
  params : Option Json := none
  id : Option Json := none

/-- What comes back for a request. -/
inductive Reply where
  | silence
  | response (id : Json) (outcome : Except Error Json)
  /-- The connection has ended, and the request was not looked at. -/
  | ended

def diagnosticJson (d : Diagnostic) : Json :=
  .record [("file", .text d.file), ("line", .nat d.line), ("column", .nat d.column),
    ("severity", .text d.severity.name), ("message", .text d.message)]

def diagnosticsJson (ds : List Diagnostic) : Json := .array (ds.map diagnosticJson)

def remarkJson (r : Remark) : Json := .record [("text", .text r.text), ("line", .nat r.line)]

def remarksJson (rs : List Remark) : Json := .array (rs.map remarkJson)

def outcomeJson (o : ParseOutcome) : Json :=
  .record [("filePath", .text o.filePath), ("diagnostics", diagnosticsJson o.diagnostics)]

/-- The error that answers a parse that failed; it carries the diagnostics. -/
def Error.ofParse (e : ParseError) : Error :=
  ⟨-32001, e.message, some (.record [("diagnostics", diagnosticsJson e.diagnostics)])⟩

def Error.toJson (e : Error) : Json :=
  .record ([("code", .int e.code), ("message", .text e.message)] ++
    (e.data.map fun d => ("data", d)).toList)

/-- The text of a response as a value; silence is `null`. -/
def Reply.toJson : Reply → Json
  | .silence => .null
  | .response id (.ok result) =>
    .record [("jsonrpc", .text "2.0"), ("id", id), ("result", result)]
  | .response id (.error e) =>
    .record [("jsonrpc", .text "2.0"), ("id", id), ("error", e.toJson)]
  | .ended => .record [("exited", .bool true)]

end CSymbols.Gateway
