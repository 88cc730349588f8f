import CSymbols.Machine
import CSymbols.Proofs.MessageOutcome
import CSymbols.Proofs.ReportText
import CSymbols.Proofs.RunJudgement
import Mathlib.Data.List.Induction

/-! Histories of the gateway: messages on any number of connections, all about one session. What
one message does to its connection and to the session holds on along a run of any length. -/
namespace CSymbols.Gateway

/-- One message with its reply, and with what was there before and after it. -/
structure Exchange (σ : Type) where
  connection : Nat
  request : Request
  /-- What the worker remembered when the message came. -/
  memory : σ
  before : State
  reply : Reply
  after : State

/-- Messages that came to a new gateway one after the other. -/
inductive History {σ : Type} (worker : Worker σ) (start : σ) :
    List (Exchange σ) → State → σ → Prop
  | start : History worker start [] {} start
  | step {es : List (Exchange σ)} {s s' : State} {memory memory' : σ} {connection : Nat}
      {r : Request} {reply : Reply} (h : History worker start es s memory)
      (hs : (s.handle worker connection r).run memory = ((reply, s'), memory')) :
      History worker start (es ++ [⟨connection, r, memory, s, reply, s'⟩]) s' memory'

namespace Exchange

variable {σ : Type}

/-- The request is answered with a result. -/
def Answered (e : Exchange σ) (v : Json) : Prop :=
  ∃ id, e.request.id = some id ∧ e.reply = .response id (.ok v)

/-- The exchange is what the gateway makes of the message. -/
def Made (worker : Worker σ) (e : Exchange σ) : Prop :=
  ∃ memory', (e.before.handle worker e.connection e.request).run e.memory =
    ((e.reply, e.after), memory')

/-- A parse that is answered with a result, and the unit that was made for it. -/
structure Parsed (worker : Worker σ) (e : Exchange σ) (p : ParseParams) (u : SourceUnit) :
    Prop where
  method : e.request.method = "cparser/parse"
  decodes : Decodes e.request.params p
  made : worker.made e.memory p = .ok (.ok u)
  answered : ∃ diagnostics, Json.Itemizes Diagnostic.ToldBy u.diagnostics diagnostics ∧
    e.Answered (.object [(some "filePath", .text p.filePath), (some "diagnostics", diagnostics)])

theorem Made.handled {worker : Worker σ} {e : Exchange σ} (h : e.Made worker) :
    Handled worker (e.before.phase e.connection) e.before.session e.memory e.request e.reply
      (e.after.phase e.connection) e.after.session ∧
    ∀ c, c ≠ e.connection → e.after.phase c = e.before.phase c := by
  obtain ⟨memory', h⟩ := h
  rcases hr : (handle worker (e.before.phase e.connection) e.before.session e.request).run
    e.memory with ⟨⟨reply, phase', session'⟩, memory''⟩
  have hstep : (e.before.handle worker e.connection e.request).run e.memory =
      ((reply, ⟨fun c => if c = e.connection then phase' else e.before.phase c, session'⟩),
        memory'') := by
    unfold State.handle
    rw [StateT.run_bind, hr]
    rfl
  obtain ⟨hreply, hafter⟩ := Prod.mk.inj (Prod.mk.inj (hstep.symm.trans h)).1
  have hhandled := Gateway.handled worker _ _ _ _ (congrArg Prod.fst hr)
  rw [← hreply, ← hafter]
  constructor
  · simpa using hhandled
  · intro c hc
    simp [hc]

/-- An answered parse puts its unit in place. -/
theorem Made.installed {worker : Worker σ} {e : Exchange σ} (h : e.Made worker)
    (hm : e.request.method = "cparser/parse") {v : Json} (hv : e.Answered v) :
    ∃ p u, e.Parsed worker p u ∧ e.after.session = ⟨some u⟩ := by
  obtain ⟨id, hid, hreply⟩ := hv
  have hparse := Method.ofName?_parse.2 hm
  rcases h.handled.1.reply_served hparse (by simp) with ⟨-, h⟩ | ⟨-, h, -⟩ | ⟨-, h⟩
  · simp [hreply] at h
  · simp [hid] at h
  · obtain ⟨id', outcome, hid', hreply', hs⟩ := h
    obtain ⟨rfl, rfl⟩ : id = id' ∧ .ok v = outcome := by simpa [hreply] using hreply'
    generalize hsession : e.after.session = session' at hs
    cases serve_parse hs with
    | @parsed p u diagnostics hready hp hw hd =>
      exact ⟨p, u, ⟨hm, hp, hw, diagnostics, hd, id, hid, hreply⟩, rfl⟩

/-- Nothing else changes the session. -/
theorem Made.kept {worker : Worker σ} {e : Exchange σ} (h : e.Made worker)
    (hp : ¬(e.request.method = "cparser/parse" ∧ ∃ v, e.Answered v)) :
    e.after.session = e.before.session := by
  exact h.handled.1.session_kept hp

end Exchange

section

variable {σ : Type} {worker : Worker σ} {start memory : σ} {es past future : List (Exchange σ)}
  {e : Exchange σ} {s : State}

/-- The most recent parse that was answered with a result. -/
inductive Latest (worker : Worker σ) :
    List (Exchange σ) → Option (ParseParams × SourceUnit) → Prop
  | none : Latest worker [] none
  | parsed {past : List (Exchange σ)} {e : Exchange σ} {p : ParseParams} {u : SourceUnit}
      (h : e.Parsed worker p u) : Latest worker (past ++ [e]) (some (p, u))
  | other {past : List (Exchange σ)} {e : Exchange σ} {latest : Option (ParseParams × SourceUnit)}
      (h : Latest worker past latest) (he : ∀ p u, ¬e.Parsed worker p u) :
      Latest worker (past ++ [e]) latest

/-- A handshake on the connection was answered with a result, and the connection was neither shut
down nor left since. -/
inductive Ready (c : Nat) : List (Exchange σ) → Prop
  | opened {past : List (Exchange σ)} {e : Exchange σ} {v : Json} (hc : e.connection = c)
      (hm : e.request.method = "initialize") (hv : e.Answered v) : Ready c (past ++ [e])
  | kept {past : List (Exchange σ)} {e : Exchange σ} (h : Ready c past)
      (hk : e.connection = c → e.request.method ≠ "shutdown" ∧ e.request.method ≠ "exit") :
      Ready c (past ++ [e])

/-- The connection was left. -/
def Gone (c : Nat) (past : List (Exchange σ)) : Prop :=
  ∃ e ∈ past, e.connection = c ∧ e.request.method = "exit"

theorem Exchange.Parsed.unique {p p' : ParseParams} {u u' : SourceUnit}
    (h : e.Parsed worker p u) (h' : e.Parsed worker p' u') : p' = p ∧ u' = u := by
  obtain ⟨v, hv, hp⟩ := h.decodes
  obtain ⟨v', hv', hp'⟩ := h'.decodes
  obtain rfl := Option.some.inj (hv.symm.trans hv')
  rw [← ParseParams.ofJson_eq_ok_iff] at hp hp'
  obtain rfl := Except.ok.inj (hp.symm.trans hp')
  have hmade := h.made.symm.trans h'.made
  simp at hmade
  exact ⟨rfl, hmade.symm⟩

theorem latest_concat {latest : Option (ParseParams × SourceUnit)} :
    Latest worker (past ++ [e]) latest ↔
      (∃ p u, e.Parsed worker p u ∧ latest = some (p, u)) ∨
        ((∀ p u, ¬e.Parsed worker p u) ∧ Latest worker past latest) := by
  constructor
  · intro h
    generalize hes : past ++ [e] = es at h
    cases h with
    | none => simp at hes
    | parsed h =>
      obtain ⟨rfl, rfl⟩ := List.append_singleton_inj.1 hes
      exact .inl ⟨_, _, h, rfl⟩
    | other h he =>
      obtain ⟨rfl, rfl⟩ := List.append_singleton_inj.1 hes
      exact .inr ⟨he, h⟩
  · rintro (⟨p, u, h, rfl⟩ | ⟨he, h⟩)
    · exact .parsed h
    · exact .other h he

theorem Latest.unique {latest other : Option (ParseParams × SourceUnit)}
    (h : Latest worker es latest) (h' : Latest worker es other) : other = latest := by
  induction h generalizing other with
  | none =>
    generalize hes : [] = es at h'
    cases h' with
    | none => rfl
    | _ => simp at hes
  | parsed h =>
    rcases latest_concat.1 h' with ⟨p, u, hparsed, rfl⟩ | ⟨hno, -⟩
    · obtain ⟨rfl, rfl⟩ := h.unique hparsed
      rfl
    · exact absurd h (hno _ _)
  | other h he ih =>
    rcases latest_concat.1 h' with ⟨p, u, hparsed, -⟩ | ⟨-, hother⟩
    · exact absurd hparsed (he p u)
    · exact ih hother

theorem ready_concat {c : Nat} : Ready c (past ++ [e]) ↔
    (e.connection = c ∧ e.request.method = "initialize" ∧ ∃ v, e.Answered v) ∨
      (Ready c past ∧
        (e.connection = c → e.request.method ≠ "shutdown" ∧ e.request.method ≠ "exit")) := by
  constructor
  · intro h
    generalize hes : past ++ [e] = es at h
    cases h with
    | opened hc hm hv =>
      obtain ⟨rfl, rfl⟩ := List.append_singleton_inj.1 hes
      exact .inl ⟨hc, hm, _, hv⟩
    | kept h hk =>
      obtain ⟨rfl, rfl⟩ := List.append_singleton_inj.1 hes
      exact .inr ⟨h, hk⟩
  · rintro (⟨hc, hm, v, hv⟩ | ⟨h, hk⟩)
    · exact .opened hc hm hv
    · exact .kept h hk

theorem not_ready_nil {c : Nat} : ¬Ready c ([] : List (Exchange σ)) := by
  intro h
  generalize hes : [] = es at h
  cases h <;> simp at hes

theorem gone_concat {c : Nat} : Gone c (past ++ [e]) ↔
    Gone c past ∨ (e.connection = c ∧ e.request.method = "exit") := by
  simp [Gone, or_and_right, exists_or]

namespace History

/-- A history has been at every place of it. -/
theorem split (h : History worker start (past ++ e :: future) s memory) :
    e.Made worker ∧ History worker start past e.before e.memory := by
  induction future using List.reverseRecOn generalizing s memory with
  | nil =>
    generalize hes : past ++ [e] = es at h
    cases h with
    | start => simp at hes
    | step h hs =>
      obtain ⟨rfl, rfl⟩ := List.append_singleton_inj.1 hes
      exact ⟨⟨_, hs⟩, h⟩
  | append_singleton future last ih =>
    generalize hes : past ++ e :: (future ++ [last]) = es at h
    cases h with
    | start => simp at hes
    | step h hs =>
      rw [← List.cons_append, ← List.append_assoc] at hes
      obtain ⟨rfl, rfl⟩ := List.append_singleton_inj.1 hes
      exact ih h

/-- The session holds the unit of the most recent answered parse. -/
theorem latest (h : History worker start es s memory) :
    ∃ latest, Latest worker es latest ∧ s.session.current = latest.map (·.2) := by
  induction h with
  | start => exact ⟨none, .none, rfl⟩
  | @step es s s' memory memory' connection r reply h hs ih =>
    have hmade : (⟨connection, r, memory, s, reply, s'⟩ : Exchange σ).Made worker := ⟨memory', hs⟩
    by_cases hp : r.method = "cparser/parse" ∧
        ∃ v, (⟨connection, r, memory, s, reply, s'⟩ : Exchange σ).Answered v
    · obtain ⟨hm, v, hv⟩ := hp
      obtain ⟨p, u, hparsed, hsession⟩ := hmade.installed hm hv
      exact ⟨some (p, u), .parsed hparsed, congrArg Session.current hsession⟩
    · obtain ⟨latest, hlatest, hcurrent⟩ := ih
      refine ⟨latest, .other hlatest ?_, ?_⟩
      · intro p u hparsed
        obtain ⟨diagnostics, -, hanswered⟩ := hparsed.answered
        exact hp ⟨hparsed.method, _, hanswered⟩
      · rw [← hcurrent]
        exact congrArg Session.current (hmade.kept hp)

/-- The phases of the connections are what their histories say. -/
theorem phases (h : History worker start es s memory) (c : Nat) :
    (s.phase c = .ready ↔ Ready c es) ∧ (s.phase c = .ended ↔ Gone c es) := by
  induction h with
  | start => simp [not_ready_nil, Gone]
  | @step es s s' memory memory' connection r reply h hs ih =>
    have hmade : (⟨connection, r, memory, s, reply, s'⟩ : Exchange σ).Made worker := ⟨memory', hs⟩
    obtain ⟨hhandled, hothers⟩ := hmade.handled
    rw [ready_concat, gone_concat]
    by_cases hc : connection = c
    · subst hc
      have hready := hhandled.ready_iff
      have hended := hhandled.ended_iff
      simp only [ih.1, ih.2] at hready hended
      simp only [Exchange.Answered, true_and, true_implies]
      exact ⟨hready, hended⟩
    · have hother : s'.phase c = s.phase c := hothers c (Ne.symm hc)
      simp [hother, hc, ih]

end History

/-- The reply to a message whose connection is not left and that asks for an answer. -/
def Exchange.Replies (past : List (Exchange σ)) (e : Exchange σ)
    (outcomes : Except Error Json → Prop) : Prop :=
  (Gone e.connection past ∧ e.reply = .ended) ∨
    (¬Gone e.connection past ∧ e.request.id = none ∧ e.reply = .silence) ∨
    (¬Gone e.connection past ∧ ∃ id outcome, e.request.id = some id ∧
      e.reply = .response id outcome ∧ outcomes outcome)

/-- Which values tell the report on a unit; without one it is empty. -/
def reportAnswer : Option SourceUnit → Except Spelling.Fault (Json → Prop)
  | none => .ok (· = .object [(some "variables", .object []), (some "functions", .object [])])
  | some u => u.report.map Report.ToldBy

/-- Which values tell a listing of the source of a unit; without one it is empty. -/
def listingAnswer (listing : String → List Remark) :
    Option SourceUnit → Except Spelling.Fault (Json → Prop)
  | none => .ok (· = .array [])
  | some u => .ok (Json.Itemizes Remark.ToldBy (listing u.source))

/-- The units that a worker makes are of the paths and sources that it is given. -/
def Worker.Keeps (worker : Worker σ) : Prop :=
  ∀ memory p u, worker.made memory p = .ok (.ok u) →
    u.filePath = p.filePath ∧ u.source = p.sourceText

/-- What is true of a message, given what came before it and the most recent parse. -/
structure Lawful (worker : Worker σ) (past : List (Exchange σ))
    (latest : Option (ParseParams × SourceUnit)) (e : Exchange σ) : Prop where
  /-- The unit of an answered parse becomes the current one. -/
  installed : e.request.method = "cparser/parse" → (∃ v, e.Answered v) →
    ∃ p u, e.Parsed worker p u ∧ e.after.session = ⟨some u⟩
  /-- Nothing else changes the session. -/
  kept : ¬(e.request.method = "cparser/parse" ∧ ∃ v, e.Answered v) →
    e.after.session = e.before.session
  current : e.before.session.current = latest.map (·.2)
  ofRequest : worker.Keeps → ∀ p u, latest = some (p, u) →
    u.filePath = p.filePath ∧ u.source = p.sourceText
  parse : e.request.method = "cparser/parse" → e.Replies past fun outcome =>
    ParseAnswer worker e.memory (Ready e.connection past) e.request.params e.before.session outcome
      e.after.session
  report : e.request.method = "cparser/report" → e.Replies past
    (QueryAnswer worker e.memory "report" (Ready e.connection past) e.request.params
      (reportAnswer (latest.map (·.2))))
  comments : e.request.method = "cparser/comments" → e.Replies past
    (QueryAnswer worker e.memory "comments" (Ready e.connection past) e.request.params
      (listingAnswer Remark.comments (latest.map (·.2))))
  directives : e.request.method = "cparser/preprocessorStatements" → e.Replies past
    (QueryAnswer worker e.memory "preprocessor" (Ready e.connection past) e.request.params
      (listingAnswer Remark.directives (latest.map (·.2))))
  unknown : Method.ofName? e.request.method = none → e.request.method.startsWith "$/" = false →
    e.Replies past (· = .error ⟨-32601, "Method not found", some (.text e.request.method)⟩)

theorem Latest.exists_parsed {latest : Option (ParseParams × SourceUnit)} {p : ParseParams}
    {u : SourceUnit} (h : Latest worker es latest) (hl : latest = some (p, u)) :
    ∃ e ∈ es, e.Parsed worker p u := by
  induction h with
  | none => simp at hl
  | @parsed past e p' u' h =>
    obtain ⟨rfl, rfl⟩ : p' = p ∧ u' = u := by simpa using hl
    exact ⟨e, by simp, h⟩
  | other h he ih =>
    obtain ⟨e, he, hparsed⟩ := ih hl
    exact ⟨e, by simp [he], hparsed⟩

theorem Exchange.Replies.mono {outcomes others : Except Error Json → Prop}
    (h : e.Replies past outcomes) (ho : ∀ outcome, outcomes outcome → others outcome) :
    e.Replies past others := by
  rcases h with h | h | ⟨hg, id, outcome, hid, hreply, h⟩
  · exact .inl h
  · exact .inr (.inl h)
  · exact .inr (.inr ⟨hg, id, outcome, hid, hreply, ho outcome h⟩)

/-- A message of a history is answered by what serves its method. -/
theorem History.replies (h : History worker start past e.before e.memory) (hm : e.Made worker)
    {method : Method} (hn : Method.ofName? e.request.method = some method)
    (he : method ≠ .exit) :
    e.Replies past fun outcome =>
      ((serve worker (e.before.phase e.connection) e.before.session e.request.params method).run
        e.memory).1 = (outcome, e.after.phase e.connection, e.after.session) := by
  have hgone := (h.phases e.connection).2
  rcases hm.handled.1.reply_served hn he with h | h | h
  · exact .inl ⟨hgone.1 h.1, h.2⟩
  · exact .inr (.inl ⟨mt hgone.2 h.1, h.2⟩)
  · exact .inr (.inr ⟨mt hgone.2 h.1, h.2⟩)

theorem conforms_report (session : Session) :
    Conforms (reportAnswer session.current) (session.report.map Report.toJson) := by
  unfold Session.report reportAnswer
  cases session.current with
  | none => exact ⟨_, rfl, rfl⟩
  | some u =>
    change Conforms (u.report.map Report.ToldBy) (u.report.map Report.toJson)
    cases u.report with
    | error fault => exact rfl
    | ok r => exact ⟨r.ToldBy, rfl, r.toldBy_toJson⟩

theorem conforms_listing (session : Session) (listing : String → List Remark) :
    Conforms (listingAnswer listing session.current)
      (.ok (remarksJson ((session.current.map fun u => listing u.source).getD []))) := by
  cases session.current with
  | none => exact ⟨_, rfl, rfl⟩
  | some u => exact ⟨_, rfl, itemizes_remarksJson (listing u.source)⟩

/-- A question is answered from what the session holds. -/
theorem History.query (h : History worker start past e.before e.memory) (hm : e.Made worker)
    {method : Method} (hn : Method.ofName? e.request.method = some method) (he : method ≠ .exit)
    {task : String} {told : Except Spelling.Fault (Json → Prop)}
    {computed : Except Spelling.Fault Json}
    (hs : ((serve worker (e.before.phase e.connection) e.before.session e.request.params
      method).run e.memory).1.1 =
        ((Gateway.query worker task (e.before.phase e.connection) e.request.params computed).run
          e.memory).1)
    (hc : Conforms told computed) :
    e.Replies past
      (QueryAnswer worker e.memory task (Ready e.connection past) e.request.params told) := by
  refine (h.replies hm hn he).mono ?_
  intro outcome hserve
  have hanswer :=
    queryAnswer worker e.memory task (e.before.phase e.connection) e.request.params hc
  rw [← hs, hserve, (h.phases e.connection).1] at hanswer
  exact hanswer

theorem History.unknown (h : History worker start past e.before e.memory) (hm : e.Made worker)
    (hn : Method.ofName? e.request.method = none)
    (hd : e.request.method.startsWith "$/" = false) :
    e.Replies past (· = .error (.unknownMethod e.request.method)) := by
  have hgone := (h.phases e.connection).2
  rcases hm.handled.1.reply_unknown hn hd with h | h | ⟨hp, id, hid, hreply⟩
  · exact .inl ⟨hgone.1 h.1, h.2⟩
  · exact .inr (.inl ⟨mt hgone.2 h.1, h.2⟩)
  · exact .inr (.inr ⟨mt hgone.2 hp, id, _, hid, hreply, rfl⟩)

theorem History.lawful (h : History worker start past e.before e.memory) (hm : e.Made worker) :
    ∃ latest, (∀ other, Latest worker past other ↔ other = latest) ∧
      Lawful worker past latest e := by
  obtain ⟨latest, hlatest, hcurrent⟩ := h.latest
  have hready := (h.phases e.connection).1
  refine ⟨latest, fun other => ⟨hlatest.unique, fun ho => ho ▸ hlatest⟩, ?_⟩
  constructor
  case installed =>
    rintro hparse ⟨v, hv⟩
    exact hm.installed hparse hv
  case kept => exact hm.kept
  case current => exact hcurrent
  case ofRequest =>
    intro hkeeps p u hpu
    obtain ⟨e, -, hparsed⟩ := hlatest.exists_parsed hpu
    exact hkeeps _ _ _ hparsed.made
  case parse =>
    intro hname
    refine (h.replies hm (Method.ofName?_parse.2 hname) (by simp)).mono ?_
    intro outcome hs
    have hanswer := serve_parse hs
    rwa [hready] at hanswer
  case report =>
    intro hname
    have hn : Method.ofName? e.request.method = some .report := by rw [hname]; rfl
    rw [← hcurrent]
    exact h.query hm hn (by simp) (serve_report ..) (conforms_report _)
  case comments =>
    intro hname
    have hn : Method.ofName? e.request.method = some .comments := by rw [hname]; rfl
    rw [← hcurrent]
    exact h.query hm hn (by simp) (serve_comments ..) (conforms_listing _ Remark.comments)
  case directives =>
    intro hname
    have hn : Method.ofName? e.request.method = some .directives := by rw [hname]; rfl
    rw [← hcurrent]
    exact h.query hm hn (by simp) (serve_directives ..) (conforms_listing _ Remark.directives)
  case unknown => exact h.unknown hm

/-- A run makes a history. -/
theorem History.handleAll (messages : List (Nat × Request))
    (h : History worker start past s memory) :
    ∃ es s' memory', (s.handleAll worker messages).run memory = ((es.map (·.reply), s'), memory') ∧
      es.map (fun e => (e.connection, e.request)) = messages ∧
      History worker start (past ++ es) s' memory' := by
  induction messages generalizing past s memory with
  | nil => exact ⟨[], s, memory, rfl, rfl, by rwa [List.append_nil]⟩
  | cons message messages ih =>
    obtain ⟨connection, r⟩ := message
    rcases hs : (s.handle worker connection r).run memory with ⟨⟨reply, s'⟩, memory'⟩
    obtain ⟨es, s'', memory'', hrun, hmessages, hhistory⟩ := ih (h.step hs)
    refine ⟨⟨connection, r, memory, s, reply, s'⟩ :: es, s'', memory'', ?_, ?_, ?_⟩
    · unfold State.handleAll
      rw [StateT.run_bind, hs]
      show (StateT.run (_ >>= _) memory') = _
      rw [StateT.run_bind, hrun]
      rfl
    · rw [List.map_cons, hmessages]
    · rwa [List.append_assoc] at hhistory

end

/-- A compiler makes units of the paths and sources that it is given. -/
theorem keeps_provider (m : Machine) (settings : CompilerSettings)
    (explain : Spelling.Fault → StateM (List Start) String) :
    (Worker.ofProvider (m.provider settings) explain).Keeps := by
  intro memory p u h
  have hmade : Compiler.parse settings p.filePath p.sourceText
      (((m.launch settings.command (Compiler.arguments settings p.filePath)
        p.sourceText).run memory).1.mapError LaunchFault.reason) = .ok u := Except.ok.inj h
  cases hrun : ((m.launch settings.command (Compiler.arguments settings p.filePath)
    p.sourceText).run memory).1 with
  | error fault =>
    rw [hrun] at hmade
    cases hmade
  | ok run =>
    rw [hrun] at hmade
    rcases Compiler.judge_cases settings p.filePath p.sourceText run with
      ⟨-, hj⟩ | ⟨-, root, -, hj⟩ | ⟨-, -, reason, hj⟩
    · cases hj.symm.trans hmade
    · obtain rfl := Except.ok.inj (hj.symm.trans hmade)
      exact ⟨rfl, rfl⟩
    · cases hj.symm.trans hmade

/-- Whatever messages come on whatever connections, and however the worker behaves: the session
changes only by parses that are answered with a result, and every answer is about the most recent
one of them. -/
theorem handleAll_lawful {σ : Type} (worker : Worker σ) (start : σ)
    (messages : List (Nat × Request)) :
    (∃ es s memory,
      (({} : State).handleAll worker messages).run start = ((es.map (·.reply), s), memory) ∧
      es.map (fun e => (e.connection, e.request)) = messages ∧
      History worker start es s memory ∧
      ∀ past e future, es = past ++ e :: future →
        ∃ latest, (∀ other, Latest worker past other ↔ other = latest) ∧
          Lawful worker past latest e) ∧
    ∀ (m : Machine) settings explain, (Worker.ofProvider (m.provider settings) explain).Keeps := by
  refine ⟨?_, keeps_provider⟩
  have hstart : History worker start [] {} start := .start
  obtain ⟨es, s, memory, hrun, hmessages, hhistory⟩ := hstart.handleAll messages
  rw [List.nil_append] at hhistory
  refine ⟨es, s, memory, hrun, hmessages, hhistory, ?_⟩
  rintro past e future rfl
  obtain ⟨hmade, hpast⟩ := hhistory.split
  exact hpast.lawful hmade

/-- What a compiler says of a parenthesis that is not closed. -/
def unclosedDiagnostics : List Diagnostic :=
  [⟨"broken.c", 1, 7, .error, "expected ')'"⟩, ⟨"broken.c", 1, 6, .note, "to match this '('"⟩]

/-- A worker that fails on one file and is aborted on another. -/
def faultyWorker : Worker Unit where
  make filePath source :=
    if filePath = "aborted.c" then return .error "task 7 panicked"
    else if filePath = "broken.c" then return .ok (.error (.failed (some 1) unclosedDiagnostics))
    else return .ok (.ok ⟨filePath, source, filePath, .mk (.other ⟨.absent, none, false⟩) [], []⟩)
  explain _ := return "task 8 panicked"

/-- Two connections: after one parse that goes well there are only parses that do not. -/
def sharedMessages : List (Nat × Request) :=
  let handshake : Request :=
    ⟨"initialize", some (.record [("capabilities", .record [])]), some .null⟩
  let parse (filePath source : String) : Request :=
    ⟨"cparser/parse", some (.array [.text filePath, .text source]), some .null⟩
  [(0, handshake), (0, parse "a.c" "int a; // a"), (1, handshake), (1, parse "broken.c" "int f("),
    (0, parse "aborted.c" ""), (0, ⟨"shutdown", none, none⟩), (0, parse "b.c" "// b"),
    (1, ⟨"cparser/comments", none, some .null⟩)]

/-- The error that answers a request. -/
def Reply.error? : Reply → Option Error
  | .response _ (.error e) => some e
  | _ => none

/-- The error that answers the parse that failed, with its diagnostics. -/
def unclosedError : Error :=
  ⟨-32001, (ParseError.failed (some 1) unclosedDiagnostics).message,
    some (.object [(some "diagnostics", .array [
      .object [(some "file", .text "broken.c"), (some "line", .nat 1), (some "column", .nat 7),
        (some "severity", .text "error"), (some "message", .text "expected ')'")],
      .object [(some "file", .text "broken.c"), (some "line", .nat 1), (some "column", .nat 6),
        (some "severity", .text "note"), (some "message", .text "to match this '('")]])])⟩

/-- The errors that answer the messages in front of the last one. -/
def sharedErrors : List (Option Error) :=
  [none, none, none, some unclosedError,
    some ⟨-32603, "parse task failed: task 7 panicked", none⟩, none,
    some ⟨-32600, "Invalid request", none⟩]

/-- The answer to the last of the messages: the comments of the parse that went well. -/
def sharedText : String :=
  "\x7b\"jsonrpc\":\"2.0\",\"id\":null,\"result\":[\x7b\"text\":\"// a\",\"line\":1\x7d]\x7d"

theorem handleAll_lawful_shared : ∃ (past : List (Exchange Unit)) (e : Exchange Unit),
    (past ++ [e]).map (fun e => (e.connection, e.request)) = sharedMessages ∧
    past.map (fun e => e.reply.error?) = sharedErrors ∧
    e.reply.toJson.compact = sharedText ∧
    ∃ latest, Latest faultyWorker past latest ∧ Lawful faultyWorker past latest e := by
  obtain ⟨⟨es, s, memory, hrun, hmessages, -, hlawful⟩, -⟩ :=
    handleAll_lawful faultyWorker () sharedMessages
  have hreplies : es.map (·.reply) =
      ((({} : State).handleAll faultyWorker sharedMessages).run ()).1.1 := by rw [hrun]
  have hne : es ≠ [] := by
    rintro rfl
    simp [sharedMessages] at hmessages
  obtain ⟨past, e, rfl⟩ := (List.eq_nil_or_concat' es).resolve_left hne
  obtain ⟨latest, honly, hlast⟩ := hlawful past e [] rfl
  have herrors : (past ++ [e]).map (fun e => e.reply.error?) = sharedErrors ++ [none] := by
    have heval := congrArg (List.map Reply.error?) hreplies
    rw [List.map_map] at heval
    exact heval.trans rfl
  have htext : ((past ++ [e]).map (fun e => e.reply.toJson.compact)).getLast? =
      some sharedText := by
    have heval := congrArg (List.map fun reply => reply.toJson.compact) hreplies
    rw [List.map_map] at heval
    exact (congrArg List.getLast? heval).trans (by decide +kernel)
  rw [List.map_append, List.map_singleton] at herrors
  rw [List.map_append, List.map_singleton, List.getLast?_concat] at htext
  exact ⟨past, e, hmessages, (List.append_singleton_inj.1 herrors).1, Option.some.inj htext, latest,
    (honly latest).2 rfl, hlast⟩

end CSymbols.Gateway
