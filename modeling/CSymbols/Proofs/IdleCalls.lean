import CSymbols.Proofs.Linearization

/-! Calls that change nothing: without them, a run of the other calls is left, with the same answers
and the same unit in the end. -/
namespace CSymbols.Session

theorem Course.invoke_unique {i : Nat} {stage : Option Stage} {es : List Event}
    (h : Course i stage es) {r r' : Request} (hr : .invoke i r ∈ es) (hr' : .invoke i r' ∈ es) :
    r = r' := by
  induction h with
  | answered h ih => exact ih (by simpa using hr) (by simpa using hr')
  | returned h ih => exact ih (by simpa using hr) (by simpa using hr')
  | _ => simp_all

theorem Course.provide_unique {i : Nat} {stage : Option Stage} {es : List Event}
    (h : Course i stage es) {f f' : String} {p p' : Provided} (hp : .provide i f p ∈ es)
    (hp' : .provide i f' p' ∈ es) : p = p' := by
  induction h with
  | answered h ih => exact ih (by simpa using hp) (by simpa using hp')
  | returned h ih => exact ih (by simpa using hp) (by simpa using hp')
  | _ => simp_all

theorem Run.invoke_unique {es : List Event} {s : System} (h : Run es s) {i : Nat}
    {r r' : Request} (hr : .invoke i r ∈ es) (hr' : .invoke i r' ∈ es) : r = r' :=
  (h.course i).invoke_unique (mem_trace.2 ⟨hr, rfl⟩) (mem_trace.2 ⟨hr', rfl⟩)

/-- A query that has returned has the answer for the unit that was put in its place last before it
read. -/
theorem Run.answer_eq {es : List Event} {s : System} (h : Run es s) {i : Nat} {q : Query}
    {a : Answer} (hi : .invoke i (.query q) ∈ es) (ha : .respond i a ∈ es) :
    ∃ before after, es = before ++ .snapshot i q :: after ∧ a = q.answer (latest before) := by
  obtain ⟨sofar, rest, rfl⟩ := List.append_of_mem ha
  obtain ⟨s₁, s₂, h₁, hs⟩ := h.split
  rcases h₁.before_respond hs with ⟨q', before, after, rfl, he⟩ | ⟨f, p, ho, -⟩
  · have hp : (Operation.query q').Performed i _ :=
      h.performed (by simp [order_append, order_cons, Event.point?])
    obtain rfl : q = q' := by simpa using h.invoke_unique hi hp
    exact ⟨before, after ++ .respond i a :: rest, by simp, he⟩
  · obtain ⟨source, hp, -⟩ : (Operation.parse f p).Performed i _ :=
      h.performed (by rw [order_append]; exact List.mem_append_left _ ho)
    simpa using h.invoke_unique hi hp

/-- A call that can change nothing: a query, or a parse whose provider makes no unit. -/
def Idle (es : List Event) (i : Nat) : Prop :=
  (∃ q, .invoke i (.query q) ∈ es) ∨
    ∃ filePath p, .provide i filePath p ∈ es ∧ ∀ u, p ≠ .unit u

theorem Run.installed?_of_idle {es : List Event} {s : System} (h : Run es s) {e : Event}
    (he : e ∈ es) (hi : Idle es e.call) : e.installed? = none := by
  cases e with
  | install i f u =>
    -- Its call would be a parse, and the provider would have made the unit.
    have ho : (i, Operation.parse f (.unit u)) ∈ order es :=
      List.mem_filterMap.2 ⟨_, he, rfl⟩
    obtain ⟨source, hr, hp⟩ := h.performed ho
    rcases hi with ⟨q, hq⟩ | ⟨f', p, hp', hu⟩
    · simpa using h.invoke_unique hr hq
    · have hpp : p = .unit u :=
        (h.course i).provide_unique (mem_trace.2 ⟨hp', rfl⟩) (mem_trace.2 ⟨hp, rfl⟩)
      exact absurd hpp (hu u)
  | _ => rfl

namespace System

def without (s : System) (lost : Nat → Bool) : System :=
  ⟨s.session, fun i => if lost i then none else s.calls i⟩

theorem without_goTo {s : System} {lost : Nat → Bool} {i : Nat} (hi : lost i = false)
    (stage : Stage) : (s.goTo i stage).without lost = (s.without lost).goTo i stage := by
  simp only [without, goTo, mk.injEq, true_and]
  funext j
  by_cases hj : j = i
  · subst hj
    simp [hi]
  · simp [Function.update_of_ne hj]

end System

theorem Step.without_of_lost {s s' : System} {e : Event} {lost : Nat → Bool} (hs : Step s e s')
    (hl : lost e.call = true) (hi : e.installed? = none) : s'.without lost = s.without lost := by
  have hc : ∀ i, lost i = false → s'.calls i = s.calls i :=
    fun i h => hs.calls_of_ne fun he => by simp [he, hl] at h
  have hsession : s'.session = s.session := by
    cases hs <;> first | rfl | simp [Event.installed?] at hi
  simp only [System.without, hsession, System.mk.injEq, true_and]
  funext i
  cases h : lost i <;> simp [hc, h]

theorem Step.without_of_kept {s s' : System} {e : Event} {lost : Nat → Bool} (hs : Step s e s')
    (hl : lost e.call = false) : Step (s.without lost) e (s'.without lost) := by
  have hcalls : (s.without lost).calls e.call = s.calls e.call := by simp [System.without, hl]
  cases hs <;> simp only [Event.call] at hl hcalls <;> rw [System.without_goTo hl]
  case invoke h => exact .invoke (hcalls.trans h)
  case make h => exact .make (hcalls.trans h)
  case fail h => exact .fail (hcalls.trans h)
  case panic h => exact .panic (hcalls.trans h)
  case install h => exact .install (hcalls.trans h)
  case snapshot h => exact .snapshot (hcalls.trans h)
  case compute h => exact .compute (hcalls.trans h)
  case «return» h => exact .return (hcalls.trans h)

/-- What is left of a run without calls that installed nothing is a run. -/
theorem Run.without {es : List Event} {s : System} (h : Run es s) {lost : Nat → Bool}
    (hi : ∀ e ∈ es, lost e.call = true → e.installed? = none) :
    Run (es.filter fun e => !lost e.call) (s.without lost) := by
  induction h with
  | start =>
    have he : System.initial.without lost = .initial := by simp [System.without, System.initial]
    rw [he]
    exact .start
  | @step es s s' e h hs ih =>
    have hes := ih fun e' he' => hi e' (List.mem_append_left _ he')
    rw [List.filter_append]
    cases hl : lost e.call with
    | false =>
      rw [List.filter_cons_of_pos (by simp [hl])]
      exact .step hes (hs.without_of_kept hl)
    | true =>
      rw [List.filter_cons_of_neg (by simp [hl]), List.filter_nil, List.append_nil,
        hs.without_of_lost hl (hi e (by simp) hl)]
      exact hes

/-- However the calls are mixed, there is an order in which they explain the run as steps on a
register. Every query answers from the unit that was installed last before it read. Queries and
failed parses can be left out without a difference to any other call, and in the end the session
holds the unit that was installed last. -/
theorem run_linearizable {es : List Event} {s : System} (h : Run es s) :
    (∃ order, Linearizes order es s.session.current) ∧
    (∀ i q a, .invoke i (.query q) ∈ es → .respond i a ∈ es →
      ∃ before after, es = before ++ .snapshot i q :: after ∧ a = q.answer (latest before)) ∧
    (∀ lost : Nat → Bool, (∀ i, lost i = true → Idle es i) →
      ∃ s', Run (es.filter fun e => !lost e.call) s' ∧ s'.session = s.session ∧
        ∀ i, lost i = false → s'.calls i = s.calls i) ∧
    s.session.current = latest es := by
  refine ⟨⟨_, h.linearizes⟩, fun i q a hi ha => h.answer_eq hi ha, ?_, h.current_eq_latest⟩
  intro lost hlost
  refine ⟨s.without lost, h.without fun e he hl => h.installed?_of_idle he (hlost _ hl), rfl, ?_⟩
  intro i hi
  simp [System.without, hi]

def declaring (filePath type : String) : SourceUnit :=
  ⟨filePath, "", filePath, .mk (.declaration
    ⟨.function, some "f", .absent, none, false, some type, none, none, false⟩) [], []⟩

/-- Two parses whose units are installed in the other order, and between the two a query that reads
the first of them and panics. -/
def overlapping : List Event :=
  [.invoke 0 (.parse "a.c" ""), .invoke 1 (.parse "b.c" ""), .invoke 2 (.query .report),
   .provide 0 "a.c" (.unit (declaring "a.c" "int (int)")),
   .provide 1 "b.c" (.unit (declaring "b.c" "é (int)")),
   .install 1 "b.c" (declaring "b.c" "é (int)"), .snapshot 2 .report,
   .install 0 "a.c" (declaring "a.c" "int (int)"), .respond 2 .panicked]

theorem run_overlapping : ∃ s, Run overlapping s := by
  have hp : Query.compute ⟨some (declaring "b.c" "é (int)")⟩ .report = .panicked := by
    have ho : (declaring "b.c" "é (int)").occurrences = .error (.cutInside 'é') := by
      decide +kernel
    simp [Query.compute, report, Report.ofUnit, SourceUnit.report, ho, Except.map]
  have h₃ := ((Run.start.step (.invoke (i := 0) (r := .parse "a.c" "") rfl)).step
    (.invoke (i := 1) (r := .parse "b.c" "") rfl)).step (.invoke (i := 2) (r := .query .report) rfl)
  have h₅ := (h₃.step (.make (i := 0) (u := declaring "a.c" "int (int)") rfl)).step
    (.make (i := 1) (u := declaring "b.c" "é (int)") rfl)
  have h₈ := ((h₅.step (.install (i := 1) rfl)).step (.snapshot (i := 2) rfl)).step
    (.install (i := 0) rfl)
  have h₉ := h₈.step (.compute (i := 2) rfl)
  exact ⟨_, hp ▸ h₉⟩

theorem run_linearizable_overlapping :
    ∃ s, Run overlapping s ∧ (∃ order, Linearizes order overlapping s.session.current) ∧
      s.session.current = some (declaring "a.c" "int (int)") ∧
      ∃ s', Run (overlapping.filter fun e => !(e.call == 2)) s' ∧ s'.session = s.session := by
  obtain ⟨s, h⟩ := run_overlapping
  obtain ⟨hl, -, hw, hc⟩ := run_linearizable h
  obtain ⟨s', hr, hs, -⟩ := hw (· == 2) fun i hi => by
    obtain rfl : i = 2 := by simpa using hi
    exact .inl ⟨.report, by simp [overlapping]⟩
  exact ⟨s, h, hl, hc, s', hr, hs⟩

end CSymbols.Session
