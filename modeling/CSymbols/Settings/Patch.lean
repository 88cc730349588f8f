import CSymbols.Settings.Basic
import CSymbols.Toml.Document
import CSymbols.Toml.Timestamp

/-! Configuration texts. A text names the settings that it changes; keys without a meaning are
passed over. -/
namespace CSymbols

/-- The settings that a text gives. -/
structure Patch where
  command : Option String := none
  language : Option String := none
  standard : Option String := none
  includePaths : Option (List String) := none
  extraFlags : Option (List String) := none
  strict : Option Bool := none
  host : Option String := none
  port : Option Nat := none
  logLevel : Option LogLevel := none
  deriving DecidableEq, Repr

namespace Patch

open Toml (Item Entries)

def string? : Item → Option String
  | .string s => some s
  | _ => none

def strings? : Item → Option (List String)
  | .array items => items.mapM string?
  | _ => none

def boolean? : Item → Option Bool
  | .boolean b => some b
  | _ => none

/-- A whole number of 16 bits. -/
def port? : Item → Option Nat
  | .integer (.ofNat n) => if n < 65536 then some n else none
  | _ => none

/-- Nothing inside: what may stand under a level that is written as a key. -/
def isVoid : Item → Bool
  | .array [] | .inline [] | .table _ [] => true
  | _ => false

/-- The name of a level, or a table whose key is one and has nothing under it. -/
def level? : Item → Option LogLevel
  | .string s => LogLevel.ofName? s
  | .inline [(key, item)] | .table _ [(key, item)] =>
    if isVoid item then LogLevel.ofName? key else none
  | _ => none

/-- The entries of a section. A date has none. -/
def section? : Item → Option Entries
  | .table _ entries | .inline entries => some entries
  | .datetime => some []
  | _ => none

/-- The key by which a table stands for a date. -/
def dateMark : String := "$__toml_private_datetime"

/-- The text of a date or a time. -/
def isDateText : Item → Bool
  | .string s => Toml.Timestamp.isTimestamp s.toList
  | _ => false

mutual

/-- Whether an item can be passed over. A table that begins with the mark of a date has to be one,
also inside of other items. -/
def isIdle : Item → Bool
  | .array items => areIdle items
  | .inline entries | .table _ entries => isIdleTable entries
  | .tables elements => areIdleTables elements
  | _ => true

def areIdle : List Item → Bool
  | [] => true
  | item :: items => isIdle item && areIdle items

def isIdleTable : List (String × Item) → Bool
  | [] => true
  | (key, item) :: rest =>
    if key = dateMark then isDateText item && rest.isEmpty
    else isIdle item && areIdleEntries rest

def areIdleEntries : List (String × Item) → Bool
  | [] => true
  | (_, item) :: rest => isIdle item && areIdleEntries rest

def areIdleTables : List (List (String × Item)) → Bool
  | [] => true
  | entries :: rest => isIdleTable entries && areIdleTables rest

end

/-- Whether all entries but those under the given keys can be passed over. -/
def othersIdle (keys : List String) (es : Entries) : Bool :=
  es.all fun e => keys.contains e.1 || isIdle e.2

/-- What stands under a key: `none` if it is there but is of another form. -/
def get? {α : Type} (read : Item → Option α) (key : String) (es : Entries) : Option (Option α) :=
  match es.lookup key with
  | none => some none
  | some item => (read item).map some

/-- The settings that a document gives. -/
def ofEntries? (root : Entries) : Option Patch := do
  let compiler := (← get? section? "compiler" root).getD []
  let server := (← get? section? "server" root).getD []
  let logging := (← get? section? "logging" root).getD []
  guard (othersIdle ["compiler", "server", "logging"] root &&
    othersIdle ["command", "language", "standard", "include_paths", "extra_flags", "strict"]
      compiler &&
    othersIdle ["host", "port"] server && othersIdle ["level"] logging)
  return {
    command := ← get? string? "command" compiler
    language := ← get? string? "language" compiler
    standard := ← get? string? "standard" compiler
    includePaths := ← get? strings? "include_paths" compiler
    extraFlags := ← get? strings? "extra_flags" compiler
    strict := ← get? boolean? "strict" compiler
    host := ← get? string? "host" server
    port := ← get? port? "port" server
    logLevel := ← get? level? "level" logging }

/-- The settings that a text gives; `none` if it is no document or gives a setting a value of
another form. -/
def parse? (text : String) : Option Patch := (Toml.parse? text).bind ofEntries?

/-- Replaces the settings that the patch gives. -/
def apply (p : Patch) (s : Settings) : Settings where
  compiler := {
    command := p.command.getD s.compiler.command
    language := p.language.getD s.compiler.language
    standard := p.standard.or s.compiler.standard
    includePaths := p.includePaths.getD s.compiler.includePaths
    extraFlags := p.extraFlags.getD s.compiler.extraFlags
    strict := p.strict.getD s.compiler.strict }
  server := {
    host := p.host.getD s.server.host
    port := p.port.getD s.server.port }
  logLevel := p.logLevel.getD s.logLevel

end Patch

/-- Why a configuration cannot be used. -/
inductive ConfigError where
  | unreadable (path : String) (reason : String)
  /-- The text is no configuration; the path is that of its file, if it has one. -/
  | invalid (path : Option String)
  deriving DecidableEq, Repr

namespace ConfigError

/-- What is wrong with a text is not spelled out; this mark stands for it. -/
def unspecified : String := "<toml>"

def message : ConfigError → String
  | unreadable path reason => "cannot read " ++ path ++ ": " ++ reason
  | invalid (some path) => "invalid configuration in " ++ path ++ ": " ++ unspecified
  | invalid none => "invalid configuration: " ++ unspecified

end ConfigError

namespace Settings

/-- The settings changed by a configuration text. -/
def merge (s : Settings) (text : String) : Except ConfigError Settings :=
  match Patch.parse? text with
  | none => .error (.invalid none)
  | some patch => .ok (patch.apply s).normal

/-- The settings of a configuration text alone. -/
def ofText (text : String) : Except ConfigError Settings := merge {} text

end Settings
end CSymbols
