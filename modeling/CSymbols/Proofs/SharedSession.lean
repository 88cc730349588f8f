import CSymbols.Session
import Mathlib.Data.List.Basic
import Mathlib.Data.List.Induction
import Mathlib.Logic.Function.Basic

/-! Many calls on one session at the same time.

A parse first lets the provider make a unit, and no call waits for it meanwhile; then it puts the
unit in its place. A query reads the current unit once and computes its answer from what it read.
Only that exchange and that reading happen under the lock, so that each of them is one step, and a
call that panics does so outside of it. -/
namespace CSymbols.Session

inductive Query where
  | report
  | comments
  | directives
  | currentFile
  | isReady
  deriving DecidableEq, Repr

inductive Request where
  | parse (filePath source : String)
  | query (q : Query)
  deriving DecidableEq, Repr

inductive Provided where
  | unit (u : SourceUnit)
  | failed (e : ParseError)
  | panicked

/-- How a call ends. -/
inductive Answer where
  | parsed (outcome : ParseOutcome)
  | failed (e : ParseError)
  | report (r : Report)
  | remarks (rs : List Remark)
  | file (path : Option String)
  | ready (b : Bool)
  | panicked

def Answer.ofParse : Except ParseError ParseOutcome → Answer
  | .ok outcome => .parsed outcome
  | .error e => .failed e

/-- The answer of a query that has read this. -/
def Query.compute (s : Session) : Query → Answer
  | .report =>
    match s.report with
    | .ok r => .report r
    | .error _ => .panicked
  | .comments => .remarks s.comments
  | .directives => .remarks s.directives
  | .currentFile => .file s.currentFile
  | .isReady => .ready s.isReady

/-- How far a call has come. -/
inductive Stage where
  | begun (r : Request)
  /-- The provider has made a unit, which is not in its place yet. -/
  | made (filePath : String) (u : SourceUnit)
  /-- The session is read. -/
  | computing (q : Query) (read : Session)
  | done (a : Answer)
  | returned

/-- A session with the calls on it. Every call has a number of its own. -/
structure System where
  session : Session
  calls : Nat → Option Stage

namespace System

/-- A new session that nobody has called. -/
def initial : System := ⟨{}, fun _ => none⟩

def goTo (s : System) (i : Nat) (stage : Stage) : System :=
  { s with calls := Function.update s.calls i (some stage) }

end System

/-- What happens to a call. -/
inductive Event where
  | invoke (i : Nat) (r : Request)
  | provide (i : Nat) (filePath : String) (p : Provided)
  | install (i : Nat) (filePath : String) (u : SourceUnit)
  | snapshot (i : Nat) (q : Query)
  | respond (i : Nat) (a : Answer)

def Event.call : Event → Nat
  | invoke i _ | provide i _ _ | install i _ _ | snapshot i _ | respond i _ => i

/-- One step of one call. The provider may do anything. -/
inductive Step : System → Event → System → Prop
  | invoke {s : System} {i : Nat} {r : Request} (h : s.calls i = none) :
      Step s (.invoke i r) (s.goTo i (.begun r))
  | make {s : System} {i : Nat} {filePath source : String} {u : SourceUnit}
      (h : s.calls i = some (.begun (.parse filePath source))) :
      Step s (.provide i filePath (.unit u)) (s.goTo i (.made filePath u))
  | fail {s : System} {i : Nat} {filePath source : String} {e : ParseError}
      (h : s.calls i = some (.begun (.parse filePath source))) :
      Step s (.provide i filePath (.failed e))
        (s.goTo i (.done (.ofParse (s.session.install filePath (.error e)).1)))
  | panic {s : System} {i : Nat} {filePath source : String}
      (h : s.calls i = some (.begun (.parse filePath source))) :
      Step s (.provide i filePath .panicked) (s.goTo i (.done .panicked))
  | install {s : System} {i : Nat} {filePath : String} {u : SourceUnit}
      (h : s.calls i = some (.made filePath u)) :
      Step s (.install i filePath u)
        (System.goTo ⟨(s.session.install filePath (.ok u)).2, s.calls⟩ i
          (.done (.ofParse (s.session.install filePath (.ok u)).1)))
  | snapshot {s : System} {i : Nat} {q : Query} (h : s.calls i = some (.begun (.query q))) :
      Step s (.snapshot i q) (s.goTo i (.computing q s.session))
  | compute {s : System} {i : Nat} {q : Query} {read : Session}
      (h : s.calls i = some (.computing q read)) :
      Step s (.respond i (q.compute read)) (s.goTo i .returned)
  | return {s : System} {i : Nat} {a : Answer} (h : s.calls i = some (.done a)) :
      Step s (.respond i a) (s.goTo i .returned)

/-- A run of any length, in which the steps of the calls are mixed in any way. -/
inductive Run : List Event → System → Prop
  | start : Run [] .initial
  | step {es : List Event} {s s' : System} {e : Event} (h : Run es s) (hs : Step s e s') :
      Run (es ++ [e]) s'

/-- A run has been at every place in its history. -/
theorem Run.split {before after : List Event} {e : Event} {s : System}
    (h : Run (before ++ e :: after) s) : ∃ s₁ s₂, Run before s₁ ∧ Step s₁ e s₂ := by
  induction after using List.reverseRecOn generalizing s with
  | nil =>
    generalize hes : before ++ [e] = es at h
    cases h with
    | start => simp at hes
    | step h hs =>
      obtain ⟨rfl, rfl⟩ := List.append_singleton_inj.1 hes
      exact ⟨_, _, h, hs⟩
  | append_singleton after e' ih =>
    generalize hes : before ++ e :: (after ++ [e']) = es at h
    cases h with
    | start => simp at hes
    | step h hs =>
      rw [← List.cons_append, ← List.append_assoc] at hes
      obtain ⟨rfl, rfl⟩ := List.append_singleton_inj.1 hes
      exact ih h

theorem Step.calls_of_ne {s s' : System} {e : Event} (h : Step s e s') {i : Nat}
    (hi : i ≠ e.call) : s'.calls i = s.calls i := by
  cases h <;> exact Function.update_of_ne hi _ _

def trace (i : Nat) (es : List Event) : List Event := es.filter fun e => e.call == i

theorem trace_concat (i : Nat) (es : List Event) (e : Event) :
    trace i (es ++ [e]) = trace i es ++ if e.call = i then [e] else [] := by
  by_cases h : e.call = i <;> simp [trace, h]

theorem mem_trace {i : Nat} {es : List Event} {e : Event} :
    e ∈ trace i es ↔ e ∈ es ∧ e.call = i := by
  simp [trace]

/-- The events of a call that has come so far. -/
inductive Course (i : Nat) : Option Stage → List Event → Prop
  | unknown : Course i none []
  | begun (r : Request) : Course i (some (.begun r)) [.invoke i r]
  | made (filePath source : String) (u : SourceUnit) :
      Course i (some (.made filePath u))
        [.invoke i (.parse filePath source), .provide i filePath (.unit u)]
  | failed (filePath source : String) (e : ParseError) :
      Course i (some (.done (.failed e)))
        [.invoke i (.parse filePath source), .provide i filePath (.failed e)]
  | panicked (filePath source : String) :
      Course i (some (.done .panicked))
        [.invoke i (.parse filePath source), .provide i filePath .panicked]
  | installed (filePath source : String) (u : SourceUnit) :
      Course i (some (.done (.parsed ⟨filePath, u.diagnostics⟩)))
        [.invoke i (.parse filePath source), .provide i filePath (.unit u),
          .install i filePath u]
  | computing (q : Query) (read : Session) :
      Course i (some (.computing q read)) [.invoke i (.query q), .snapshot i q]
  | answered {q : Query} {read : Session} {es : List Event}
      (h : Course i (some (.computing q read)) es) :
      Course i (some .returned) (es ++ [.respond i (q.compute read)])
  | returned {a : Answer} {es : List Event} (h : Course i (some (.done a)) es) :
      Course i (some .returned) (es ++ [.respond i a])

/-- One step takes the call that makes it one event further. -/
theorem Course.step {s s' : System} {e : Event} (hs : Step s e s') {es : List Event}
    (h : Course e.call (s.calls e.call) es) : Course e.call (s'.calls e.call) (es ++ [e]) := by
  cases hs
  all_goals
    rename_i hc
    simp only [Event.call, hc] at h
    simp only [Event.call, System.goTo, Function.update_self, install, Answer.ofParse]
  case compute => exact .answered h
  case «return» => exact .returned h
  -- Behind any other event the history is a fixed one.
  all_goals
    cases h
    constructor

theorem Run.course {es : List Event} {s : System} (h : Run es s) (i : Nat) :
    Course i (s.calls i) (trace i es) := by
  induction h with
  | start => exact .unknown
  | @step es s s' e h hs ih =>
    rw [trace_concat]
    split_ifs with he
    · subst he
      exact .step hs ih
    · rw [List.append_nil, hs.calls_of_ne (Ne.symm he)]
      exact ih

end CSymbols.Session
