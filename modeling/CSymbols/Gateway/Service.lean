import CSymbols.Gateway.Catalogue
import CSymbols.Gateway.Handshake

/-! The gateway: many connections, each with a handshake of its own, and one session behind all. -/
namespace CSymbols.Gateway

/-- How far a connection has come. -/
inductive Phase where
  | fresh
  /-- The handshake is done. -/
  | ready
  | shutDown
  | ended
  deriving DecidableEq, Repr

/-- The methods that are known. -/
inductive Method where
  | handshake
  | shutdown
  | exit
  | parse
  | report
  | comments
  | directives
  /-- A request that nothing serves, with the form of its parameters. -/
  | unserved (form : Check)
  /-- A message that tells something and expects no answer. -/
  | notice
  /-- A message that takes a request back. Requests are answered before it can come. -/
  | cancel

/-- The methods that have an effect. -/
def served : List (String × Method) :=
  [("initialize", .handshake), ("shutdown", .shutdown), ("exit", .exit), ("cparser/parse", .parse),
   ("cparser/report", .report), ("cparser/comments", .comments),
   ("cparser/preprocessorStatements", .directives), ("$/cancelRequest", .cancel)]

def Method.ofName? (name : String) : Option Method :=
  (served.lookup name).or
    (if Catalogue.notices.contains name then some .notice
    else (Catalogue.requests.lookup name).map .unserved)

def programName : String := "cparser"

def version : String := "0.1.0"

/-- What a client learns in the handshake. -/
def capabilities : Json :=
  .record [
    ("capabilities", .record [("experimental", .record [("cparser", .record [("methods",
      .array (["cparser/parse", "cparser/report", "cparser/comments",
        "cparser/preprocessorStatements"].map .text))])])]),
    ("serverInfo", .record [("name", .text programName), ("version", .text version)])]

/-- A request may come only between handshake and shutdown. -/
def checkPhase : Phase → Except Error Unit
  | .fresh => .error .notReady
  | .ready => .ok ()
  | _ => .error .invalidRequest

def checkNoParams : Option Json → Except Error Unit
  | none => .ok ()
  | some v => .error (unexpectedParams v)

def requireParams : Option Json → Except Error Json
  | none => .error (.invalidParams "Missing params field")
  | some v => .ok v

/-- The outcome of a handshake, and the phase behind it. -/
def handshake (phase : Phase) (params : Option Json) : Except Error Json × Phase :=
  if phase ≠ .fresh then (.error .invalidRequest, phase)
  else
    match requireParams params >>= checkHandshake .direct with
    | .error e => (.error e, phase)
    | .ok () => (.ok capabilities, .ready)

/-- The outcome of a shutdown, and the phase behind it: a ready connection is shut down even if the
parameters are refused. -/
def shutdown (phase : Phase) (params : Option Json) : Except Error Json × Phase :=
  (do checkPhase phase
      checkNoParams params
      return .null,
    if phase = .ready then .shutDown else phase)

/-- What works on requests. Work may be aborted, and then there is only a text that says so. -/
structure Worker (σ : Type) where
  make (filePath source : String) : StateM σ (Except String (Except ParseError SourceUnit))
  /-- What is said of work on an answer that was aborted. -/
  explain (fault : Spelling.Fault) : StateM σ String

/-- A worker whose provider is never aborted. -/
def Worker.ofProvider {σ : Type} (provider : Provider σ)
    (explain : Spelling.Fault → StateM σ String) : Worker σ where
  make filePath source := do return .ok (← provider filePath source)
  explain := explain

/-- The outcome of a question about the session, whose answer may be aborted. -/
def query {σ : Type} (worker : Worker σ) (task : String) (phase : Phase) (params : Option Json)
    (answer : Except Spelling.Fault Json) : StateM σ (Except Error Json) := do
  match checkPhase phase *> checkNoParams params with
  | .error e => return .error e
  | .ok () =>
    match answer with
    | .ok v => return .ok v
    | .error fault => return .error (.aborted task (← worker.explain fault))

/-- The outcome of a parse, and the session behind it. -/
def parse {σ : Type} (worker : Worker σ) (phase : Phase) (session : Session)
    (params : Option Json) :
    StateM σ (Except Error Json × Session) := do
  match checkPhase phase *> requireParams params >>= ParseParams.ofJson with
  | .error e => return (.error e, session)
  | .ok p =>
    match ← worker.make p.filePath p.sourceText with
    | .error text => return (.error (.aborted "parse" text), session)
    | .ok made =>
      let (outcome, session) := session.install p.filePath made
      return ((outcome.map outcomeJson).mapError Error.ofParse, session)

/-- The error for a request that nothing serves. -/
def refuse (phase : Phase) (params : Option Json) (form : Check) : Error :=
  match checkPhase phase *> requireParams params >>= form .direct with
  | .error e => e
  | .ok () => .unserved

/-- The error for a message that asks for an answer, but is of a kind that has none. -/
def refuseNotice : Phase → Error
  | .fresh => .notReady
  | _ => .invalidRequest

/-- What a request for an answer comes to: the outcome, and the phase and session behind it. -/
def serve {σ : Type} (worker : Worker σ) (phase : Phase) (session : Session)
    (params : Option Json) :
    Method → StateM σ (Except Error Json × Phase × Session)
  | .handshake => do
    let (outcome, phase) := handshake phase params
    return (outcome, phase, session)
  | .shutdown => do
    let (outcome, phase) := shutdown phase params
    return (outcome, phase, session)
  | .parse => do
    let (outcome, session) ← parse worker phase session params
    return (outcome, phase, session)
  | .report => do
    return (← query worker "report" phase params (session.report.map Report.toJson), phase,
      session)
  | .comments => do
    return (← query worker "comments" phase params (.ok (remarksJson session.comments)), phase,
      session)
  | .directives => do
    return (← query worker "preprocessor" phase params (.ok (remarksJson session.directives)),
      phase, session)
  | .unserved form => return (.error (refuse phase params form), phase, session)
  | .notice => return (.error (refuseNotice phase), phase, session)
  | .cancel | .exit => return (.error .invalidRequest, phase, session)

/-- The phase behind a message that expects no answer. Only a shutdown has an effect. -/
def phaseAfterNotice (phase : Phase) : Method → Phase
  | .shutdown => (shutdown phase none).2
  | _ => phase

/-- Handles a message on a connection in the given phase. -/
def handle {σ : Type} (worker : Worker σ) (phase : Phase) (session : Session) (r : Request) :
    StateM σ (Reply × Phase × Session) := do
  if phase = .ended then return (.ended, phase, session)
  match Method.ofName? r.method, r.id with
  | some .exit, _ => return (.silence, .ended, session)
  | some method, some id =>
    let (outcome, phase, session) ← serve worker phase session r.params method
    return (.response id outcome, phase, session)
  | some method, none => return (.silence, phaseAfterNotice phase method, session)
  | none, some id =>
    if r.method.startsWith "$/" then return (.silence, phase, session)
    else return (.response id (.error (.unknownMethod r.method)), phase, session)
  | none, none => return (.silence, phase, session)

/-- The gateway: the phases of the connections, by their numbers, and the shared session. -/
structure State where
  phase : Nat → Phase := fun _ => .fresh
  session : Session := {}

/-- Handles a message that came on a connection. -/
def State.handle {σ : Type} (worker : Worker σ) (s : State) (connection : Nat) (r : Request) :
    StateM σ (Reply × State) := do
  let (reply, phase, session) ← Gateway.handle worker (s.phase connection) s.session r
  return (reply, ⟨fun c => if c = connection then phase else s.phase c, session⟩)

/-- Handles messages one after the other. -/
def State.handleAll {σ : Type} (worker : Worker σ) (s : State) :
    List (Nat × Request) → StateM σ (List Reply × State)
  | [] => return ([], s)
  | (connection, r) :: rest => do
    let (reply, s) ← s.handle worker connection r
    let (replies, s) ← s.handleAll worker rest
    return (reply :: replies, s)

/-- Handles messages with a provider that is never aborted. -/
def State.run {σ : Type} (provider : Provider σ) (explain : Spelling.Fault → StateM σ String)
    (s : State) (messages : List (Nat × Request)) : StateM σ (List Reply × State) :=
  s.handleAll (.ofProvider provider explain) messages

end CSymbols.Gateway
