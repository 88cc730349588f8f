import CSymbols.Gateway.Service
import CSymbols.Proofs.ParseParameters
import Mathlib.Data.List.Forall2

/-! What the gateway makes of one message: the reply, and what becomes of the phase of its
connection and of the session. -/
namespace CSymbols

/-- An array has an item for each of some things, in their order. -/
def Json.Itemizes {α : Type} (tells : α → Json → Prop) (things : List α) (v : Json) : Prop :=
  ∃ items, v = .array items ∧ List.Forall₂ tells things items

theorem Json.itemizes_map {α : Type} {tells : α → Json → Prop} {f : α → Json}
    (h : ∀ a, tells a (f a)) (things : List α) : Itemizes tells things (.array (things.map f)) := by
  refine ⟨_, rfl, ?_⟩
  rw [List.forall₂_map_right_iff]
  exact List.forall₂_same.2 fun a _ => h a

/-- What an object says of a diagnostic. -/
def Diagnostic.ToldBy (d : Diagnostic) (v : Json) : Prop :=
  ∃ severity, (d.severity, severity) ∈ [(Severity.fatal, "fatal"), (Severity.error, "error"),
      (Severity.warning, "warning"), (Severity.note, "note")] ∧
    v = .object [(some "file", .text d.file), (some "line", .nat d.line),
      (some "column", .nat d.column), (some "severity", .text severity),
      (some "message", .text d.message)]

/-- What an object says of a remark. -/
def Remark.ToldBy (r : Remark) (v : Json) : Prop :=
  v = .object [(some "text", .text r.text), (some "line", .nat r.line)]

/-- Only a compiler that made no tree leaves diagnostics. -/
inductive ParseError.Leaves : ParseError → List Diagnostic → Prop
  | launch (command reason : String) : Leaves (.launch command reason) []
  | failed (status : Option Int) (ds : List Diagnostic) : Leaves (.failed status ds) ds
  | invalidTree (reason : String) : Leaves (.invalidTree reason) []

theorem ParseError.leaves_diagnostics (e : ParseError) : e.Leaves e.diagnostics := by
  cases e with
  | launch command reason => exact .launch command reason
  | failed status ds => exact .failed status ds
  | invalidTree reason => exact .invalidTree reason

namespace Gateway

theorem toldBy_diagnosticJson (d : Diagnostic) : d.ToldBy (diagnosticJson d) := by
  refine ⟨d.severity.name, ?_, rfl⟩
  cases d.severity <;> decide

theorem itemizes_diagnosticsJson (ds : List Diagnostic) :
    Json.Itemizes Diagnostic.ToldBy ds (diagnosticsJson ds) :=
  Json.itemizes_map toldBy_diagnosticJson ds

theorem toldBy_remarkJson (r : Remark) : r.ToldBy (remarkJson r) := rfl

theorem itemizes_remarksJson (rs : List Remark) :
    Json.Itemizes Remark.ToldBy rs (remarksJson rs) :=
  Json.itemizes_map toldBy_remarkJson rs

/-- The methods that have an effect are those of the table. -/
theorem Method.ofName?_eq_some_iff {name : String} {method : Method} (hn : method ≠ .notice)
    (hu : ∀ form, method ≠ .unserved form) :
    ofName? name = some method ↔ (name, method) ∈ served := by
  unfold ofName?
  constructor
  · intro h
    cases hs : served.lookup name with
    | some m =>
      rw [hs, Option.some_or] at h
      obtain rfl := Option.some.inj h
      obtain ⟨front, back, hsplit, -⟩ := List.lookup_eq_some_iff.1 hs
      rw [hsplit]
      simp
    | none =>
      rw [hs, Option.none_or] at h
      split at h
      · exact absurd (Option.some.inj h).symm hn
      · obtain ⟨form, -, hform⟩ := Option.map_eq_some_iff.1 h
        exact absurd hform.symm (hu form)
  · intro h
    have hlookup : served.lookup name = some method := by
      simp only [served, List.mem_cons, Prod.mk.injEq, List.not_mem_nil, or_false] at h
      rcases h with ⟨rfl, rfl⟩ | ⟨rfl, rfl⟩ | ⟨rfl, rfl⟩ | ⟨rfl, rfl⟩ | ⟨rfl, rfl⟩ | ⟨rfl, rfl⟩ |
        ⟨rfl, rfl⟩ | ⟨rfl, rfl⟩ <;> rfl
    rw [hlookup, Option.some_or]

theorem Method.ofName?_handshake {name : String} :
    ofName? name = some .handshake ↔ name = "initialize" := by
  rw [ofName?_eq_some_iff (by simp) (by simp)]
  simp [served]

theorem Method.ofName?_shutdown {name : String} :
    ofName? name = some .shutdown ↔ name = "shutdown" := by
  rw [ofName?_eq_some_iff (by simp) (by simp)]
  simp [served]

theorem Method.ofName?_exit {name : String} : ofName? name = some .exit ↔ name = "exit" := by
  rw [ofName?_eq_some_iff (by simp) (by simp)]
  simp [served]

theorem Method.ofName?_parse {name : String} :
    ofName? name = some .parse ↔ name = "cparser/parse" := by
  rw [ofName?_eq_some_iff (by simp) (by simp)]
  simp [served]

/-- What a message comes to, by its method and by whether it asks for an answer. -/
inductive Handled {σ : Type} (worker : Worker σ) (phase : Phase) (session : Session) (memory : σ)
    (r : Request) : Reply → Phase → Session → Prop
  | ended (h : phase = .ended) : Handled worker phase session memory r .ended phase session
  | exit (h : phase ≠ .ended) (hm : Method.ofName? r.method = some .exit) :
      Handled worker phase session memory r .silence .ended session
  | served {method : Method} {id : Json} {outcome : Except Error Json} {phase' : Phase}
      {session' : Session} (h : phase ≠ .ended) (hm : Method.ofName? r.method = some method)
      (he : method ≠ .exit) (hid : r.id = some id)
      (hs : ((serve worker phase session r.params method).run memory).1 =
        (outcome, phase', session')) :
      Handled worker phase session memory r (.response id outcome) phase' session'
  | noticed {method : Method} (h : phase ≠ .ended) (hm : Method.ofName? r.method = some method)
      (he : method ≠ .exit) (hid : r.id = none) :
      Handled worker phase session memory r .silence (phaseAfterNotice phase method) session
  | unknown {id : Json} (h : phase ≠ .ended) (hm : Method.ofName? r.method = none)
      (hid : r.id = some id) (hd : r.method.startsWith "$/" = false) :
      Handled worker phase session memory r (.response id (.error (.unknownMethod r.method)))
        phase session
  | ignored (h : phase ≠ .ended) (hm : Method.ofName? r.method = none)
      (hid : r.id = none ∨ r.method.startsWith "$/" = true) :
      Handled worker phase session memory r .silence phase session

theorem handled {σ : Type} (worker : Worker σ) (phase : Phase) (session : Session) (memory : σ)
    (r : Request) {reply : Reply} {phase' : Phase} {session' : Session}
    (h : ((handle worker phase session r).run memory).1 = (reply, phase', session')) :
    Handled worker phase session memory r reply phase' session' := by
  unfold handle at h
  by_cases hended : phase = .ended
  · rw [if_pos hended] at h
    cases h
    exact .ended hended
  · rw [if_neg hended] at h
    split at h
    · rename_i hm
      cases h
      exact .exit hended hm
    · rename_i method id hexit hm hid
      cases h
      exact .served hended hm (hexit ·) hid rfl
    · rename_i method hexit hm hid
      cases h
      exact .noticed hended hm (hexit ·) hid
    · rename_i id hm hid
      split at h
      · rename_i hd
        cases h
        exact .ignored hended hm (.inr hd)
      · rename_i hd
        cases h
        exact .unknown hended hm hid (by simpa using hd)
    · rename_i hm hid
      cases h
      exact .ignored hended hm (.inl hid)

/-- The parameters of a request are those of a parse. -/
def Decodes (params : Option Json) (p : ParseParams) : Prop := ∃ v, params = some v ∧ p.ReadFrom v

/-- What a worker makes of the parameters of a parse. -/
def Worker.made {σ : Type} (worker : Worker σ) (memory : σ) (p : ParseParams) :
    Except String (Except ParseError SourceUnit) :=
  ((worker.make p.filePath p.sourceText).run memory).1

/-- What a worker says of an answer that was aborted. -/
def Worker.explained {σ : Type} (worker : Worker σ) (memory : σ) (fault : Spelling.Fault) :
    String :=
  ((worker.explain fault).run memory).1

/-- What a parse is answered with, and the session behind it. -/
inductive ParseAnswer {σ : Type} (worker : Worker σ) (memory : σ) (ready : Prop)
    (params : Option Json) (session : Session) : Except Error Json → Session → Prop
  | closed {e : Error} (h : ¬ready) (he : e = .notReady ∨ e = .invalidRequest) :
      ParseAnswer worker memory ready params session (.error e) session
  | malformed {message : String} (h : ready) (hp : ∀ p, ¬Decodes params p) :
      ParseAnswer worker memory ready params session (.error ⟨-32602, message, none⟩) session
  | aborted {p : ParseParams} {text : String} (h : ready) (hp : Decodes params p)
      (hw : worker.made memory p = .error text) :
      ParseAnswer worker memory ready params session
        (.error ⟨-32603, "parse task failed: " ++ text, none⟩) session
  | failed {p : ParseParams} {e : ParseError} {ds : List Diagnostic} {diagnostics : Json}
      (h : ready) (hp : Decodes params p) (hw : worker.made memory p = .ok (.error e))
      (he : e.Leaves ds) (hd : Json.Itemizes Diagnostic.ToldBy ds diagnostics) :
      ParseAnswer worker memory ready params session
        (.error ⟨-32001, e.message, some (.object [(some "diagnostics", diagnostics)])⟩) session
  | parsed {p : ParseParams} {u : SourceUnit} {diagnostics : Json} (h : ready)
      (hp : Decodes params p) (hw : worker.made memory p = .ok (.ok u))
      (hd : Json.Itemizes Diagnostic.ToldBy u.diagnostics diagnostics) :
      ParseAnswer worker memory ready params session
        (.ok (.object [(some "filePath", .text p.filePath), (some "diagnostics", diagnostics)]))
        ⟨some u⟩

/-- What a question is answered with. What was computed for it says which values tell the answer. -/
inductive QueryAnswer {σ : Type} (worker : Worker σ) (memory : σ) (task : String) (ready : Prop)
    (params : Option Json) (computed : Except Spelling.Fault (Json → Prop)) :
    Except Error Json → Prop
  | closed {e : Error} (h : ¬ready) (he : e = .notReady ∨ e = .invalidRequest) :
      QueryAnswer worker memory task ready params computed (.error e)
  | malformed {v : Json} (h : ready) (hp : params = some v) :
      QueryAnswer worker memory task ready params computed
        (.error ⟨-32602, "Unexpected params: " ++ v.canonical.compact, none⟩)
  | aborted {fault : Spelling.Fault} (h : ready) (hp : params = none)
      (hf : computed = .error fault) :
      QueryAnswer worker memory task ready params computed
        (.error ⟨-32603, task ++ " task failed: " ++ worker.explained memory fault, none⟩)
  | answered {tells : Json → Prop} {v : Json} (h : ready) (hp : params = none)
      (hc : computed = .ok tells) (hv : tells v) :
      QueryAnswer worker memory task ready params computed (.ok v)

theorem checkPhase_error {phase : Phase} (h : phase ≠ .ready) :
    ∃ e, checkPhase phase = .error e ∧ (e = .notReady ∨ e = .invalidRequest) := by
  cases phase with
  | fresh => exact ⟨.notReady, rfl, .inl rfl⟩
  | ready => exact absurd rfl h
  | shutDown => exact ⟨.invalidRequest, rfl, .inr rfl⟩
  | ended => exact ⟨.invalidRequest, rfl, .inr rfl⟩

/-- What is computed is a value that tells the answer, or the fault in its place. -/
def Conforms (told : Except Spelling.Fault (Json → Prop)) : Except Spelling.Fault Json → Prop
  | .error fault => told = .error fault
  | .ok v => ∃ tells, told = .ok tells ∧ tells v

theorem queryAnswer {σ : Type} (worker : Worker σ) (memory : σ) (task : String) (phase : Phase)
    (params : Option Json) {told : Except Spelling.Fault (Json → Prop)}
    {computed : Except Spelling.Fault Json} (h : Conforms told computed) :
    QueryAnswer worker memory task (phase = .ready) params told
      ((query worker task phase params computed).run memory).1 := by
  unfold query
  by_cases hready : phase = .ready
  · subst hready
    cases params with
    | some v => exact .malformed rfl rfl
    | none =>
      cases computed with
      | error fault => exact .aborted rfl rfl h
      | ok v =>
        obtain ⟨tells, htold, hv⟩ := h
        exact .answered rfl rfl htold hv
  · obtain ⟨e, he, hclosed⟩ := checkPhase_error hready
    rw [he]
    exact .closed hready hclosed

/-- The work on a parse that has been accepted. -/
theorem parse_accepted {σ : Type} (worker : Worker σ) (memory : σ) (session : Session) {v : Json}
    {p : ParseParams} (h : ParseParams.ofJson v = .ok p) :
    ((parse worker .ready session (some v)).run memory).1 =
      match worker.made memory p with
      | .error text => (.error (.aborted "parse" text), session)
      | .ok made =>
        let installed := session.install p.filePath made
        ((installed.1.map outcomeJson).mapError Error.ofParse, installed.2) := by
  have haccepted : (checkPhase .ready *> requireParams (some v) >>= ParseParams.ofJson) =
      .ok p := h
  unfold parse Worker.made
  rw [haccepted]
  simp only [StateT.run_bind]
  rcases (worker.make p.filePath p.sourceText).run memory with ⟨made, memory'⟩
  cases made <;> rfl

theorem parse_refused {σ : Type} (worker : Worker σ) (memory : σ) (session : Session)
    {phase : Phase} {params : Option Json} {e : Error}
    (h : (checkPhase phase *> requireParams params >>= ParseParams.ofJson) = .error e) :
    ((parse worker phase session params).run memory).1 = (.error e, session) := by
  unfold parse
  rw [h]
  rfl

theorem parseAnswer {σ : Type} (worker : Worker σ) (memory : σ) (phase : Phase)
    (session : Session) (params : Option Json) :
    ParseAnswer worker memory (phase = .ready) params session
      ((parse worker phase session params).run memory).1.1
      ((parse worker phase session params).run memory).1.2 := by
  by_cases hready : phase = .ready
  · subst hready
    cases params with
    | none =>
      refine .malformed rfl ?_
      rintro p ⟨v, hv, -⟩
      cases hv
    | some v =>
      cases hv : ParseParams.ofJson v with
      | error e =>
        have hrefused : (checkPhase .ready *> requireParams (some v) >>= ParseParams.ofJson) =
            .error e := hv
        rw [parse_refused worker memory session hrefused]
        obtain ⟨message, rfl⟩ := isMalformed_of_ofJson hv
        refine .malformed rfl ?_
        rintro p ⟨v', hv', hp⟩
        cases hv'
        cases hv.symm.trans (ParseParams.ofJson_eq_ok_iff.2 hp)
      | ok p =>
        have hp : Decodes (some v) p := ⟨v, rfl, ParseParams.ofJson_eq_ok_iff.1 hv⟩
        rw [parse_accepted worker memory session hv]
        cases hw : worker.made memory p with
        | error text => exact .aborted rfl hp hw
        | ok made =>
          cases made with
          | error e =>
            exact .failed rfl hp hw e.leaves_diagnostics (itemizes_diagnosticsJson _)
          | ok u => exact .parsed rfl hp hw (itemizes_diagnosticsJson _)
  · obtain ⟨e, he, hclosed⟩ := checkPhase_error hready
    have hrefused : (checkPhase phase *> requireParams params >>= ParseParams.ofJson) =
        .error e := by
      rw [he]
      rfl
    rw [parse_refused worker memory session hrefused]
    exact .closed hready hclosed

/-- The phase behind a request for an answer. -/
def phaseAfter (phase : Phase) (params : Option Json) : Method → Phase
  | .handshake => (handshake phase params).2
  | .shutdown => (shutdown phase params).2
  | _ => phase

theorem serve_phase {σ : Type} {worker : Worker σ} {memory : σ} {phase phase' : Phase}
    {session session' : Session} {params : Option Json} {method : Method}
    {outcome : Except Error Json}
    (h : ((serve worker phase session params method).run memory).1 = (outcome, phase', session')) :
    phase' = phaseAfter phase params method := by
  cases method <;> cases h <;> rfl

theorem serve_session {σ : Type} {worker : Worker σ} {memory : σ} {phase phase' : Phase}
    {session session' : Session} {params : Option Json} {method : Method}
    {outcome : Except Error Json} (hm : method ≠ .parse)
    (h : ((serve worker phase session params method).run memory).1 = (outcome, phase', session')) :
    session' = session := by
  cases method with
  | parse => exact absurd rfl hm
  | _ =>
    cases h
    rfl

theorem serve_parse {σ : Type} {worker : Worker σ} {memory : σ} {phase phase' : Phase}
    {session session' : Session} {params : Option Json} {outcome : Except Error Json}
    (h : ((serve worker phase session params .parse).run memory).1 = (outcome, phase', session')) :
    ParseAnswer worker memory (phase = .ready) params session outcome session' := by
  obtain rfl : ((parse worker phase session params).run memory).1.1 = outcome :=
    congrArg Prod.fst h
  obtain rfl : ((parse worker phase session params).run memory).1.2 = session' :=
    congrArg (fun r => r.2.2) h
  exact parseAnswer worker memory phase session params

theorem serve_report {σ : Type} (worker : Worker σ) (memory : σ) (phase : Phase)
    (session : Session) (params : Option Json) :
    ((serve worker phase session params .report).run memory).1.1 =
      ((query worker "report" phase params (session.report.map Report.toJson)).run memory).1 := rfl

theorem serve_comments {σ : Type} (worker : Worker σ) (memory : σ) (phase : Phase)
    (session : Session) (params : Option Json) :
    ((serve worker phase session params .comments).run memory).1.1 =
      ((query worker "comments" phase params (.ok (remarksJson session.comments))).run
        memory).1 := rfl

theorem serve_directives {σ : Type} (worker : Worker σ) (memory : σ) (phase : Phase)
    (session : Session) (params : Option Json) :
    ((serve worker phase session params .directives).run memory).1.1 =
      ((query worker "preprocessor" phase params (.ok (remarksJson session.directives))).run
        memory).1 := rfl

theorem handshake_ready_iff (phase : Phase) (params : Option Json) :
    (handshake phase params).2 = .ready ↔
      (∃ v, (handshake phase params).1 = .ok v) ∨ phase = .ready := by
  unfold handshake
  split
  · simp
  · rename_i hfresh
    have hphase : phase ≠ .ready := by
      intro h
      simp [h] at hfresh
    split <;> simp [hphase]

theorem handshake_ended_iff (phase : Phase) (params : Option Json) :
    (handshake phase params).2 = .ended ↔ phase = .ended := by
  unfold handshake
  split
  · rfl
  · rename_i hfresh
    obtain rfl : phase = .fresh := by simpa using hfresh
    split <;> simp

theorem shutdown_ne_ready (phase : Phase) (params : Option Json) :
    (shutdown phase params).2 ≠ .ready := by
  cases phase <;> simp [shutdown]

theorem shutdown_ended_iff (phase : Phase) (params : Option Json) :
    (shutdown phase params).2 = .ended ↔ phase = .ended := by
  cases phase <;> simp [shutdown]

namespace Handled

variable {σ : Type} {worker : Worker σ} {phase phase' : Phase} {session session' : Session}
  {memory : σ} {r : Request} {reply : Reply}

/-- A connection is ready behind a handshake that was answered with a result, and it stays so until
it is shut down or left. -/
theorem ready_iff (h : Handled worker phase session memory r reply phase' session') :
    phase' = .ready ↔
      (r.method = "initialize" ∧ ∃ v id, r.id = some id ∧ reply = .response id (.ok v)) ∨
        (phase = .ready ∧ r.method ≠ "shutdown" ∧ r.method ≠ "exit") := by
  rw [Ne, Ne, ← Method.ofName?_handshake, ← Method.ofName?_shutdown, ← Method.ofName?_exit]
  cases h with
  | ended h => simp [h]
  | exit h hm => simp [hm]
  | @served method id outcome phase' session' h hm he hid hs =>
    obtain rfl := serve_phase hs
    cases method with
    | handshake =>
      obtain rfl : (handshake phase r.params).1 = outcome := congrArg Prod.fst hs
      simp [phaseAfter, handshake_ready_iff, hm, hid]
    | shutdown => simp [phaseAfter, shutdown_ne_ready, hm]
    | exit => exact absurd rfl he
    | _ => simp [phaseAfter, hm]
  | @noticed method h hm he hid =>
    cases method with
    | shutdown => simp [phaseAfterNotice, shutdown_ne_ready, hm]
    | exit => exact absurd rfl he
    | _ => simp [phaseAfterNotice, hm, hid]
  | unknown h hm hid hd => simp [hm]
  | ignored h hm hid => simp [hm]

theorem ended_iff (h : Handled worker phase session memory r reply phase' session') :
    phase' = .ended ↔ phase = .ended ∨ r.method = "exit" := by
  rw [← Method.ofName?_exit]
  cases h with
  | ended h => simp [h]
  | exit h hm => simp [hm]
  | @served method id outcome phase' session' h hm he hid hs =>
    obtain rfl := serve_phase hs
    cases method with
    | handshake => simp [phaseAfter, handshake_ended_iff, hm]
    | shutdown => simp [phaseAfter, shutdown_ended_iff, hm]
    | exit => exact absurd rfl he
    | _ => simp [phaseAfter, hm]
  | @noticed method h hm he hid =>
    cases method with
    | shutdown => simp [phaseAfterNotice, shutdown_ended_iff, hm]
    | exit => exact absurd rfl he
    | _ => simp [phaseAfterNotice, hm]
  | unknown h hm hid hd => simp [hm]
  | ignored h hm hid => simp [hm]

/-- Only a parse that is answered with a result changes the session. -/
theorem session_kept (h : Handled worker phase session memory r reply phase' session')
    (hp : ¬(r.method = "cparser/parse" ∧ ∃ v id, r.id = some id ∧ reply = .response id (.ok v))) :
    session' = session := by
  cases h with
  | @served method id outcome phase' session' h hm he hid hs =>
    cases method with
    | parse =>
      cases serve_parse hs with
      | parsed => exact absurd ⟨Method.ofName?_parse.1 hm, _, id, hid, rfl⟩ hp
      | _ => rfl
    | _ => exact serve_session (by simp) hs
  | _ => rfl

/-- A message with a known method is answered if it asks for an answer, as long as the connection is
not left. -/
theorem reply_served (h : Handled worker phase session memory r reply phase' session')
    {method : Method} (hm : Method.ofName? r.method = some method) (he : method ≠ .exit) :
    (phase = .ended ∧ reply = .ended) ∨
      (phase ≠ .ended ∧ r.id = none ∧ reply = .silence) ∨
      (phase ≠ .ended ∧ ∃ id outcome, r.id = some id ∧ reply = .response id outcome ∧
        ((serve worker phase session r.params method).run memory).1 =
          (outcome, phase', session')) := by
  cases h with
  | ended h => exact .inl ⟨h, rfl⟩
  | exit h hm' => exact absurd (Option.some.inj (hm.symm.trans hm')) he
  | @served method' id outcome phase' session' h hm' he' hid hs =>
    obtain rfl := Option.some.inj (hm.symm.trans hm')
    exact .inr (.inr ⟨h, id, outcome, hid, rfl, hs⟩)
  | noticed h hm' he' hid => exact .inr (.inl ⟨h, hid, rfl⟩)
  | unknown h hm' hid hd => simp [hm] at hm'
  | ignored h hm' hid => simp [hm] at hm'

theorem reply_unknown (h : Handled worker phase session memory r reply phase' session')
    (hn : Method.ofName? r.method = none) (hd : r.method.startsWith "$/" = false) :
    (phase = .ended ∧ reply = .ended) ∨
      (phase ≠ .ended ∧ r.id = none ∧ reply = .silence) ∨
      (phase ≠ .ended ∧ ∃ id, r.id = some id ∧
        reply = .response id (.error (.unknownMethod r.method))) := by
  cases h with
  | ended h => exact .inl ⟨h, rfl⟩
  | @unknown id h hn' hid hd' => exact .inr (.inr ⟨h, id, hid, rfl⟩)
  | ignored h hn' hid =>
    have hnone : r.id = none := by simpa [hd] using hid
    exact .inr (.inl ⟨h, hnone, rfl⟩)
  | exit _ hn' | served _ hn' | noticed _ hn' => simp [hn] at hn'

end Handled

end Gateway
end CSymbols
