import CSymbols.Proofs.SharedSession
import Mathlib.Data.List.Nodup
import Mathlib.Order.Basic

/-! Calls on a shared session look as if each of them were one step on a register that holds a unit
or none: a parse that succeeds where it puts its unit in its place, any other parse where its
provider ends, and a query where it reads. -/
namespace CSymbols.Session

abbrev Register := Option SourceUnit

def Query.answer : Query → Register → Answer
  | .report, none => .report .empty
  | .report, some u =>
    match u.report with
    | .ok r => .report r
    | .error _ => .panicked
  | .comments, none => .remarks []
  | .comments, some u => .remarks u.comments
  | .directives, none => .remarks []
  | .directives, some u => .remarks u.directives
  | .currentFile, none => .file none
  | .currentFile, some u => .file u.filePath
  | .isReady, r => .ready r.isSome

theorem Query.compute_eq_answer (q : Query) (s : Session) : q.compute s = q.answer s.current := by
  obtain ⟨current⟩ := s
  cases q <;> cases current <;> rfl

/-- A call as one step. -/
inductive Operation where
  | parse (filePath : String) (p : Provided)
  | query (q : Query)

namespace Operation

/-- The register behind an operation, and its answer. -/
def apply (r : Register) : Operation → Register × Answer
  | parse filePath (.unit u) => (some u, .parsed ⟨filePath, u.diagnostics⟩)
  | parse _ (.failed e) => (r, .failed e)
  | parse _ .panicked => (r, .panicked)
  | query q => (r, q.answer r)

/-- The operation is what a call asks for, and a parse has what its provider made. -/
def Performed (i : Nat) (es : List Event) : Operation → Prop
  | parse filePath p => ∃ source, .invoke i (.parse filePath source) ∈ es ∧
      .provide i filePath p ∈ es
  | query q => .invoke i (.query q) ∈ es

theorem Performed.mono {i : Nat} {es es' : List Event} {op : Operation} (h : op.Performed i es)
    (hs : es ⊆ es') : op.Performed i es' := by
  cases op with
  | parse filePath p =>
    obtain ⟨source, hi, hp⟩ := h
    exact ⟨source, hs hi, hs hp⟩
  | query q => exact hs h

end Operation

/-- The register behind operations that come one after the other. -/
def registerAfter (r : Register) (ops : List (Nat × Operation)) : Register :=
  ops.foldl (fun r o => (o.2.apply r).1) r

def answers (r : Register) : List (Nat × Operation) → List (Nat × Answer)
  | [] => []
  | (i, op) :: ops => (i, (op.apply r).2) :: answers (op.apply r).1 ops

theorem answers_append (r : Register) (ops ops' : List (Nat × Operation)) :
    answers r (ops ++ ops') = answers r ops ++ answers (registerAfter r ops) ops' := by
  induction ops generalizing r with
  | nil => rfl
  | cons o ops ih => simp only [List.cons_append, answers, ih, registerAfter, List.foldl_cons]

/-- An order of the calls explains a history: they could have come one after the other in this
order, with these answers and this register in the end, and no call comes in front of one that had
returned before it began. -/
structure Linearizes (order : List (Nat × Operation)) (es : List Event) (final : Register) :
    Prop where
  once : (order.map Prod.fst).Nodup
  performed : ∀ i op, (i, op) ∈ order → op.Performed i es
  answered : ∀ i a, .respond i a ∈ es → (i, a) ∈ answers none order
  realTime : ∀ i j a r, [.respond i a, .invoke j r].Sublist es → j ∈ order.map Prod.fst →
    [i, j].Sublist (order.map Prod.fst)
  final : registerAfter none order = final

/-- The operation that takes place at an event. -/
def Event.point? : Event → Option (Nat × Operation)
  | provide i filePath (.failed e) => some (i, .parse filePath (.failed e))
  | provide i filePath .panicked => some (i, .parse filePath .panicked)
  | install i filePath u => some (i, .parse filePath (.unit u))
  | snapshot i q => some (i, .query q)
  | provide _ _ (.unit _) | invoke _ _ | respond _ _ => none

theorem Event.call_of_point? {e : Event} {i : Nat} {op : Operation}
    (h : e.point? = some (i, op)) : e.call = i := by
  unfold point? at h
  split at h <;> simp_all [call]

/-- The operations of a history, in the order in which they take place. -/
def order (es : List Event) : List (Nat × Operation) := es.filterMap Event.point?

theorem order_nil : order [] = [] := rfl

theorem order_cons (e : Event) (es : List Event) :
    order (e :: es) = e.point?.toList ++ order es := by
  cases h : e.point? <;> simp [order, h]

theorem order_append (es es' : List Event) : order (es ++ es') = order es ++ order es' :=
  List.filterMap_append

/-- The unit that an event puts in its place. -/
def Event.installed? : Event → Option SourceUnit
  | install _ _ u => some u
  | _ => none

/-- The unit that was put in its place last. -/
def latest (es : List Event) : Register := (es.filterMap Event.installed?).getLast?

theorem latest_concat (es : List Event) (e : Event) :
    latest (es ++ [e]) = e.installed?.or (latest es) := by
  rw [latest, List.filterMap_append]
  cases h : e.installed? <;> simp [h, latest]

theorem registerAfter_order (es : List Event) : registerAfter none (order es) = latest es := by
  induction es using List.reverseRecOn with
  | nil => rfl
  | append_singleton es e ih =>
    rw [latest_concat, ← ih, order_append, registerAfter, List.foldl_append]
    rcases e with _ | ⟨_, _, _ | _ | _⟩ | _ | _ | _ <;> rfl

theorem Run.current_eq_latest {es : List Event} {s : System} (h : Run es s) :
    s.session.current = latest es := by
  induction h with
  | start => rfl
  | step h hs ih =>
    rw [latest_concat, ← ih]
    cases hs <;> rfl

/-- A query that is computing has read what was put in its place last before. -/
theorem Run.read_eq_latest {es : List Event} {s : System} (h : Run es s) {i : Nat} {q : Query}
    {read : Session} (hc : s.calls i = some (.computing q read)) :
    ∃ before after, es = before ++ .snapshot i q :: after ∧ read.current = latest before := by
  induction h with
  | start => cases hc
  | @step es s s' e h hs ih =>
    by_cases hi : i = e.call
    · subst hi
      cases hs
      case snapshot hq =>
        simp only [System.goTo, Event.call, Function.update_self, Option.some.injEq,
          Stage.computing.injEq] at hc
        obtain ⟨rfl, rfl⟩ := hc
        exact ⟨es, [], rfl, h.current_eq_latest⟩
      all_goals simp [System.goTo, Event.call] at hc
    · rw [hs.calls_of_ne hi] at hc
      obtain ⟨before, after, rfl, hl⟩ := ih hc
      exact ⟨before, after ++ [e], by simp, hl⟩

theorem Course.order_of_done {i : Nat} {a : Answer} {es : List Event}
    (h : Course i (some (.done a)) es) :
    ∃ filePath p, order es = [(i, .parse filePath p)] ∧
      ∀ r, ((Operation.parse filePath p).apply r).2 = a := by
  cases h <;> exact ⟨_, _, rfl, fun _ => rfl⟩

theorem order_concat_respond (es : List Event) (i : Nat) (a : Answer) :
    order (es ++ [.respond i a]) = order es := by
  rw [order_append]
  exact List.append_nil _

/-- A call takes place once at most, as the operation that it asks for. -/
theorem Course.order_eq {i : Nat} {stage : Option Stage} {es : List Event}
    (h : Course i stage es) :
    order es = [] ∨ ∃ op, order es = [(i, op)] ∧ op.Performed i es := by
  induction h with
  | unknown => exact .inl rfl
  | begun => exact .inl rfl
  | made => exact .inl rfl
  | failed f source e => exact .inr ⟨_, rfl, source, by simp, by simp⟩
  | panicked f source => exact .inr ⟨_, rfl, source, by simp, by simp⟩
  | installed f source u => exact .inr ⟨_, rfl, source, by simp, by simp⟩
  | computing q read => exact .inr ⟨_, rfl, by simp [Operation.Performed]⟩
  | answered h ih =>
    rw [order_concat_respond]
    exact ih.imp_right fun ⟨op, ho, hp⟩ => ⟨op, ho, hp.mono (by simp)⟩
  | returned h ih =>
    rw [order_concat_respond]
    exact ih.imp_right fun ⟨op, ho, hp⟩ => ⟨op, ho, hp.mono (by simp)⟩

theorem order_trace (i : Nat) (es : List Event) :
    order (trace i es) = (order es).filter fun o => o.1 == i := by
  induction es with
  | nil => rfl
  | cons e es ih =>
    have ht : trace i (e :: es) = (if e.call = i then [e] else []) ++ trace i es := by
      by_cases h : e.call = i <;> simp [trace, h]
    rw [order_cons, ht, List.filter_append, order_append, ih]
    congr 1
    cases h : e.point? with
    | none => split_ifs <;> simp [order, h]
    | some o =>
      obtain ⟨j, op⟩ := o
      rw [Event.call_of_point? h]
      by_cases hj : j = i <;> simp [order, h, hj]

theorem Run.order_nodup {es : List Event} {s : System} (h : Run es s) :
    ((order es).map Prod.fst).Nodup := by
  rw [List.nodup_iff_count_le_one]
  intro i
  -- A call that took place twice would do so in its own course.
  rw [List.count_eq_length_filter, List.filter_map, List.length_map]
  change ((order es).filter fun o => o.1 == i).length ≤ 1
  rw [← order_trace]
  rcases (h.course i).order_eq with ho | ⟨op, ho, -⟩ <;> simp [ho]

theorem Run.performed {es : List Event} {s : System} (h : Run es s) {i : Nat} {op : Operation}
    (ho : (i, op) ∈ order es) : op.Performed i es := by
  have ht : (i, op) ∈ order (trace i es) := by simp [order_trace, ho]
  rcases (h.course i).order_eq with he | ⟨op', he, hp⟩
  · simp [he] at ht
  · obtain rfl : op = op' := by simpa [he] using ht
    exact hp.mono (List.filter_subset_self es)

/-- Where a call ends, it has taken place, and a query has read before. -/
theorem Run.before_respond {es : List Event} {s s' : System} (h : Run es s) {i : Nat} {a : Answer}
    (hs : Step s (.respond i a) s') :
    (∃ q before after, es = before ++ .snapshot i q :: after ∧ a = q.answer (latest before)) ∨
    ∃ filePath p, (i, .parse filePath p) ∈ order es ∧
      ∀ r, ((Operation.parse filePath p).apply r).2 = a := by
  cases hs with
  | @compute _ q read hc =>
    obtain ⟨before, after, he, hl⟩ := h.read_eq_latest hc
    exact .inl ⟨q, before, after, he, by rw [Query.compute_eq_answer, hl]⟩
  | «return» hc =>
    have hco := h.course i
    rw [hc] at hco
    obtain ⟨f, p, ho, ha⟩ := hco.order_of_done
    have hm : (i, Operation.parse f p) ∈ order (trace i es) := by simp [ho]
    rw [order_trace] at hm
    exact .inr ⟨f, p, (List.mem_filter.1 hm).1, ha⟩

theorem mem_answers_of_mem {i : Nat} {op : Operation} {ops : List (Nat × Operation)}
    (h : (i, op) ∈ ops) {a : Answer} (ha : ∀ r, (op.apply r).2 = a) (r : Register) :
    (i, a) ∈ answers r ops := by
  obtain ⟨before, after, rfl⟩ := List.append_of_mem h
  rw [answers_append, answers, ha]
  exact List.mem_append_right _ List.mem_cons_self

theorem Run.mem_answers {es : List Event} {s : System} (h : Run es s) {i : Nat} {a : Answer}
    (ha : .respond i a ∈ es) : (i, a) ∈ answers none (order es) := by
  obtain ⟨sofar, rest, rfl⟩ := List.append_of_mem ha
  obtain ⟨s₁, s₂, h₁, hs⟩ := h.split
  rw [order_append, answers_append]
  refine List.mem_append_left _ ?_
  rcases h₁.before_respond hs with ⟨q, before, after, rfl, rfl⟩ | ⟨f, p, ho, hp⟩
  -- A query answers from the register that the operations in front of it leave.
  · rw [order_append, answers_append, registerAfter_order]
    exact List.mem_append_right _ List.mem_cons_self
  · exact mem_answers_of_mem ho hp none

theorem Run.mem_order_of_respond {es : List Event} {s : System} (h : Run es s) {i : Nat}
    {a : Answer} {sofar rest : List Event} (hes : es = sofar ++ rest)
    (ha : .respond i a ∈ sofar) : i ∈ (order sofar).map Prod.fst := by
  obtain ⟨before, after, rfl⟩ := List.append_of_mem ha
  rw [List.append_assoc] at hes
  subst hes
  obtain ⟨s₁, s₂, h₁, hs⟩ := h.split
  rw [order_append, List.map_append]
  refine List.mem_append_left _ ?_
  rcases h₁.before_respond hs with ⟨q, first, second, rfl, -⟩ | ⟨f, p, ho, -⟩
  · simp [order_append, order_cons, Event.point?]
  · exact List.mem_map_of_mem ho

theorem Run.not_mem_order_of_invoke {es : List Event} {s : System} (h : Run es s) {j : Nat}
    {r : Request} {sofar rest : List Event} (hes : es = sofar ++ rest)
    (hj : .invoke j r ∈ rest) : j ∉ (order sofar).map Prod.fst := by
  obtain ⟨before, after, rfl⟩ := List.append_of_mem hj
  rw [← List.append_assoc] at hes
  subst hes
  obtain ⟨s₁, s₂, h₁, hs⟩ := h.split
  have hc := h₁.course j
  cases hs with
  | invoke hn =>
    -- In front of its first event, the course of a call is empty.
    rw [hn] at hc
    generalize ht : trace j (sofar ++ before) = es at hc
    cases hc
    have ho := order_trace j (sofar ++ before)
    rw [ht, order_append] at ho
    intro hm
    obtain ⟨o, hmem, rfl⟩ := List.mem_map.1 hm
    have hf : o ∈ (order sofar ++ order before).filter fun o' => o'.1 == o.1 := by simp [hmem]
    rw [← ho] at hf
    simp [order_nil] at hf

theorem Run.realTime {es : List Event} {s : System} (h : Run es s) {i j : Nat} {a : Answer}
    {r : Request} (hes : [.respond i a, .invoke j r].Sublist es)
    (hj : j ∈ (order es).map Prod.fst) : [i, j].Sublist ((order es).map Prod.fst) := by
  obtain ⟨sofar, rest, rfl, ha, hr⟩ := List.cons_sublist_iff.1 hes
  have hi := h.mem_order_of_respond rfl ha
  have hn := h.not_mem_order_of_invoke rfl (List.singleton_sublist.1 hr)
  rw [order_append, List.map_append] at hj ⊢
  have hj' := (List.mem_append.1 hj).resolve_left hn
  exact (List.singleton_sublist.2 hi).append (List.singleton_sublist.2 hj')

theorem Run.linearizes {es : List Event} {s : System} (h : Run es s) :
    Linearizes (order es) es s.session.current where
  once := h.order_nodup
  performed := fun _ _ ho => h.performed ho
  answered := fun _ _ ha => h.mem_answers ha
  realTime := fun _ _ _ _ hes hj => h.realTime hes hj
  final := (registerAfter_order es).trans h.current_eq_latest.symm

end CSymbols.Session
