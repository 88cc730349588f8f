import CSymbols.CommandLine
import CSymbols.Proofs.ReportFaults
import CSymbols.Proofs.ReportText

/-! What a batch asks its provider and what comes of the answers. The provider is asked once for
each place of a file that can be read. A path has the report on the last unit that was made of it, at
the place of the first one; all other answers leave no trace in the reports. -/
namespace CSymbols

namespace OrderedMap
variable {α β : Type} {related : α → β → Prop}

/-- Two maps have the same names in the same order, with related values. -/
def Relates (related : α → β → Prop) (m : OrderedMap α) (m' : OrderedMap β) : Prop :=
  List.Forall₂ (fun e e' => e.1 = e'.1 ∧ related e.2 e'.2) m.entries m'.entries

theorem forall₂_putEntry {es : List (String × α)} {es' : List (String × β)}
    (h : List.Forall₂ (fun e e' => e.1 = e'.1 ∧ related e.2 e'.2) es es') (name : String)
    {a : α} {b : β} (hab : related a b) :
    List.Forall₂ (fun e e' => e.1 = e'.1 ∧ related e.2 e'.2) (putEntry name a es)
      (putEntry name b es') := by
  induction h with
  | nil => exact .cons ⟨rfl, hab⟩ .nil
  | @cons e e' es es' he hes ih =>
    unfold putEntry
    rw [← he.1]
    split_ifs with hname
    · exact .cons ⟨rfl, hab⟩ hes
    · exact .cons he ih

theorem Relates.insert {m : OrderedMap α} {m' : OrderedMap β} (h : Relates related m m')
    (name : String) {a : α} {b : β} (hab : related a b) :
    Relates related (m.insert name a) (m'.insert name b) :=
  forall₂_putEntry h name hab

theorem get?_eq_none_iff {m : OrderedMap α} {name : String} :
    m.get? name = none ↔ name ∉ m.keys := by
  unfold get? keys
  rw [List.lookup_eq_none_iff, List.mem_map]
  constructor
  · rintro h ⟨e, he, rfl⟩
    simpa using h e he
  · intro h e he
    simpa using fun hname => h ⟨e, he, hname.symm⟩

end OrderedMap

namespace Batch
variable {σ : Type} (fs : FileSystem) (provider : Provider σ)

/-- What a provider is to be asked: one call for each place of a file that can be read. -/
def calls (paths : List String) : List (String × String) :=
  paths.filterMap fun path => (fs.bytes? path).map fun bytes => (path, Text.Utf8.lossyText bytes)

/-- The answers to some calls that are made one after the other, and the state that the provider is
left in. -/
def answers : List (String × String) → σ → List (String × Except ParseError SourceUnit) × σ
  | [], state => ([], state)
  | (path, source) :: calls, state =>
    let (result, next) := (provider path source).run state
    let (results, last) := answers calls next
    ((path, result) :: results, last)

/-- A provider that notes what it is asked. -/
def noting : Provider (σ × List (String × String)) := fun path source state =>
  let (result, next) := (provider path source).run state.1
  (result, next, state.2 ++ [(path, source)])

/-- The unit of an answer, under its path. -/
def made? (answer : String × Except ParseError SourceUnit) : Option (String × SourceUnit) :=
  answer.2.toOption.map (answer.1, ·)

section Places
variable {fs} {path : String} (paths : List String) (state : σ)

theorem calls_cons_of_none (h : fs.bytes? path = none) :
    calls fs (path :: paths) = calls fs paths := by
  simp [calls, h]

theorem calls_cons_of_some {bytes : List UInt8} (h : fs.bytes? path = some bytes) :
    calls fs (path :: paths) = (path, Text.Utf8.lossyText bytes) :: calls fs paths := by
  simp [calls, h]

theorem accepted_cons_of_none (h : fs.bytes? path = none) :
    accepted fs provider (path :: paths) state = accepted fs provider paths state := by
  simp [accepted, accept, h]

theorem accepted_cons_of_some {bytes : List UInt8} {result : Except ParseError SourceUnit}
    {next : σ} (h : fs.bytes? path = some bytes)
    (hr : (provider path (Text.Utf8.lossyText bytes)).run state = (result, next)) :
    accepted fs provider (path :: paths) state =
      ((made? (path, result)).toList ++ (accepted fs provider paths next).1,
        (accepted fs provider paths next).2) := by
  simp [accepted, accept, made?, h, hr]

end Places

/-- The units that are accepted are those in the answers to the calls. -/
theorem accepted_eq_answers (paths : List String) (state : σ) :
    accepted fs provider paths state =
      ((answers provider (calls fs paths) state).1.filterMap made?,
        (answers provider (calls fs paths) state).2) := by
  induction paths generalizing state with
  | nil => rfl
  | cons path paths ih =>
    cases hb : fs.bytes? path with
    | none =>
      rw [accepted_cons_of_none provider paths state hb, calls_cons_of_none paths hb]
      exact ih state
    | some bytes =>
      obtain ⟨result, next, hr⟩ : ∃ result next,
          (provider path (Text.Utf8.lossyText bytes)).run state = (result, next) := ⟨_, _, rfl⟩
      rw [accepted_cons_of_some provider paths state hb hr, calls_cons_of_some paths hb, answers,
        hr, ih, List.filterMap_cons]
      cases made? (path, result) <;> rfl

theorem accepted_noting (paths : List String) (state : σ) (notes : List (String × String)) :
    accepted fs (noting provider) paths (state, notes) =
      ((accepted fs provider paths state).1, (accepted fs provider paths state).2,
        notes ++ calls fs paths) := by
  induction paths generalizing state notes with
  | nil => simp [accepted, calls]
  | cons path paths ih =>
    cases hb : fs.bytes? path with
    | none =>
      rw [accepted_cons_of_none _ paths _ hb, accepted_cons_of_none _ paths _ hb,
        calls_cons_of_none paths hb]
      exact ih state notes
    | some bytes =>
      obtain ⟨result, next, hr⟩ : ∃ result next,
          (provider path (Text.Utf8.lossyText bytes)).run state = (result, next) := ⟨_, _, rfl⟩
      have hnoted : (noting provider path (Text.Utf8.lossyText bytes)).run (state, notes) =
          (result, next, notes ++ [(path, Text.Utf8.lossyText bytes)]) := by
        simp only [StateT.run] at hr
        simp only [noting, StateT.run, hr]
      rw [accepted_cons_of_some _ paths _ hb hr, accepted_cons_of_some _ paths _ hb hnoted,
        calls_cons_of_some paths hb, ih, List.append_assoc]
      rfl

/-- Noting the calls changes nothing else, and the notes are the calls in the order of the
paths. -/
theorem extract_noting {paths : List String} {state last : σ} {reports : OrderedMap Report}
    (h : (extract fs provider paths).run state = .ok (reports, last)) :
    (extract fs (noting provider) paths).run (state, []) =
      .ok (reports, last, calls fs paths) := by
  unfold extract at h ⊢
  rw [foldlM_add] at h ⊢
  rw [accepted_noting]
  cases hall : enterReports .empty (accepted fs provider paths state).1 with
  | error fault => simp [hall, Except.map] at h
  | ok all =>
    rw [hall] at h
    cases h
    simp [Except.map]

/-- The report on a unit. -/
def ReportedAs (u : SourceUnit) (r : Report) : Prop := Report.ofUnit (some u) = .ok r

theorem enterReports_relates {units : List (String × SourceUnit)}
    (h : ∀ e ∈ units, ∃ r, ReportedAs e.2 r) {sofar : OrderedMap SourceUnit}
    {reports : OrderedMap Report} (hsofar : sofar.Relates ReportedAs reports) :
    ∃ all, enterReports reports units = .ok all ∧
      (units.foldl (fun m e => m.insert e.1 e.2) sofar).Relates ReportedAs all := by
  induction units generalizing sofar reports with
  | nil => exact ⟨reports, rfl, hsofar⟩
  | cons e units ih =>
    obtain ⟨r, hr⟩ := h e List.mem_cons_self
    have hrest : ∀ e' ∈ units, ∃ r, ReportedAs e'.2 r :=
      fun e' he' => h e' (List.mem_cons_of_mem e he')
    obtain ⟨all, hall, hrelates⟩ := ih hrest (hsofar.insert e.1 hr)
    exact ⟨all, enterReports_cons_ok_iff.2 ⟨r, hr, hall⟩, hrelates⟩

theorem foldl_insert_made (answers : List (String × Except ParseError SourceUnit)) :
    (answers.filterMap made?).foldl (fun m e => m.insert e.1 e.2) .empty =
      OrderedMap.ofItems Prod.fst (fun answer => answer.2.toOption) answers := by
  rw [List.foldl_filterMap, OrderedMap.ofItems]
  congr 1
  funext m answer
  unfold made? OrderedMap.enter
  dsimp only
  cases answer.2.toOption <;> rfl

/-- The paths of the units in some answers in the order of the first ones, each with the report on
the last one. -/
def ReportsLatest (answers : List (String × Except ParseError SourceUnit))
    (reports : OrderedMap Report) : Prop :=
  ∃ units : OrderedMap SourceUnit,
    OrderedMap.Indexes Prod.fst (fun answer => answer.2.toOption) units answers ∧
      units.Relates ReportedAs reports

theorem extract_reportsLatest {paths : List String} {state : σ}
    (h : ∀ answer ∈ (answers provider (calls fs paths) state).1, ∀ u, answer.2 = .ok u →
      ∃ r, ReportedAs u r) :
    ∃ reports, (extract fs provider paths).run state =
        .ok (reports, (answers provider (calls fs paths) state).2) ∧
      ReportsLatest (answers provider (calls fs paths) state).1 reports := by
  have hunits : ∀ e ∈ (answers provider (calls fs paths) state).1.filterMap made?,
      ∃ r, ReportedAs e.2 r := by
    intro e he
    obtain ⟨⟨path, result⟩, hmem, hmade⟩ := List.mem_filterMap.1 he
    cases result with
    | error fault => simp [made?, Except.toOption] at hmade
    | ok u =>
      obtain rfl : (path, u) = e := by simpa [made?, Except.toOption] using hmade
      exact h _ hmem u rfl
  obtain ⟨reports, hreports, hrelates⟩ :=
    enterReports_relates hunits (show OrderedMap.empty.Relates ReportedAs .empty from .nil)
  refine ⟨reports, ?_, _, OrderedMap.indexes_ofItems _ _ _, ?_⟩
  · rw [extract, foldlM_add, accepted_eq_answers, hreports]
    rfl
  · rwa [foldl_insert_made] at hrelates

/-- A place is passed over: its path names no file that can be read, or the provider makes no unit
of it. -/
def PassedOver (path : String) (state next : σ) : Prop :=
  (fs.bytes? path = none ∧ next = state) ∨
    ∃ bytes fault, fs.bytes? path = some bytes ∧
      (provider path (Text.Utf8.lossyText bytes)).run state = (.error fault, next)

variable {fs provider} in
theorem PassedOver.add_run {path : String} {state next : σ}
    (h : PassedOver fs provider path state next) (reports : OrderedMap Report) :
    (add fs provider reports path).run state = .ok (reports, next) := by
  unfold add
  rcases h with ⟨hb, rfl⟩ | ⟨bytes, fault, hb, hr⟩
  · simp [StateT.run, hb]
  · rw [StateT.run] at hr
    simp [StateT.run, hb, hr]

/-- Behind a place that is passed over a batch goes on with the reports from before it. -/
theorem extract_passedOver {before after : List String} {path : String} {state last : σ}
    {reports : OrderedMap Report}
    (h : (extract fs provider (before ++ path :: after)).run state = .ok (reports, last)) :
    ∃ sofar s, (extract fs provider before).run state = .ok (sofar, s) ∧
      ∀ next, PassedOver fs provider path s next →
        (after.foldlM (add fs provider) sofar).run next = .ok (reports, last) := by
  unfold extract at h ⊢
  rw [List.foldlM_append, StateT.run_bind] at h
  cases hbefore : (before.foldlM (add fs provider) .empty).run state with
  | error fault =>
    rw [hbefore] at h
    cases h
  | ok sofar =>
    refine ⟨sofar.1, sofar.2, rfl, ?_⟩
    intro next hnext
    have hrest : ((path :: after).foldlM (add fs provider) sofar.1).run sofar.2 =
        .ok (reports, last) := by
      rwa [hbefore] at h
    rw [List.foldlM_cons, StateT.run_bind, hnext.add_run sofar.1] at hrest
    exact hrest

/-- The output for some paths: none for a single path without a report, for another single path
its report, and else all reports under their paths. -/
structure Rendered (paths : List String) (reports : OrderedMap Report)
    (output : Option String) : Prop where
  none_iff : output = none ↔ ∃ path, paths = [path] ∧ path ∉ reports.keys
  alone : ∀ path r, paths = [path] → reports.get? path = some r → output = some r.toJson.pretty
  together : paths.length ≠ 1 → ∃ v, output = some v.pretty ∧
    Json.Lists (fun r w => r.toJson = w) reports.entries v

theorem rendered_render (paths : List String) (reports : OrderedMap Report) :
    Rendered paths reports (render paths reports) := by
  by_cases hlength : paths.length = 1
  · obtain ⟨path, rfl⟩ := List.length_eq_one_iff.1 hlength
    refine ⟨?_, ?_, fun h => absurd hlength h⟩
    · simp [render, OrderedMap.get?_eq_none_iff]
    · rintro path' r hpath hr
      obtain rfl : path = path' := by simpa using hpath
      simp [render, hr]
  · have hrender := render_of_length_ne_one hlength reports
    refine ⟨?_, ?_, fun _ => ⟨_, hrender, Json.lists_record (fun _ => rfl) _⟩⟩
    · rw [hrender]
      refine iff_of_false (by simp) ?_
      rintro ⟨path, rfl, -⟩
      exact hlength rfl
    · rintro path r rfl -
      exact absurd rfl hlength

theorem report_of_extract {m : Machine} {s : CompilerSettings} {paths : List String}
    {reports : OrderedMap Report} {starts : List Start}
    (h : (extract m.files (m.provider s) paths).run [] = .ok (reports, starts)) :
    (render paths reports = none → CommandLine.report m s paths = ⟨1, "", ""⟩) ∧
      ∀ text, render paths reports = some text →
        CommandLine.report m s paths = ⟨0, text ++ "\n", ""⟩ := by
  unfold CommandLine.report
  constructor
  · intro hnone
    simp [h, hnone]
  · intro text htext
    simp [h, htext]

/-- The provider is asked just once for each place of a file that can be read, in the order of the
paths. Each path has the report on the last unit that was made of it, and a place that is passed
over changes no report. Only a single path without a report has no output, and then the program
fails. -/
theorem extract_rendered {σ : Type} (fs : FileSystem) (provider : Provider σ)
    (paths : List String) (state : σ)
    (h : ∀ answer ∈ (answers provider (calls fs paths) state).1, ∀ u, answer.2 = .ok u →
      ∃ r, ReportedAs u r) :
    ∃ reports last, (extract fs provider paths).run state = .ok (reports, last) ∧
      last = (answers provider (calls fs paths) state).2 ∧
      (extract fs (noting provider) paths).run (state, []) = .ok (reports, last, calls fs paths) ∧
      ReportsLatest (answers provider (calls fs paths) state).1 reports ∧
      (∀ before path after, paths = before ++ path :: after →
        ∃ sofar s, (extract fs provider before).run state = .ok (sofar, s) ∧
          ∀ next, PassedOver fs provider path s next →
            (after.foldlM (add fs provider) sofar).run next = .ok (reports, last)) ∧
      Rendered paths reports (render paths reports) ∧
      ∀ m s starts, (extract m.files (m.provider s) paths).run [] = .ok (reports, starts) →
        (render paths reports = none → CommandLine.report m s paths = ⟨1, "", ""⟩) ∧
          ∀ text, render paths reports = some text →
            CommandLine.report m s paths = ⟨0, text ++ "\n", ""⟩ := by
  obtain ⟨reports, hextract, hlatest⟩ := extract_reportsLatest fs provider h
  refine ⟨reports, _, hextract, rfl, extract_noting fs provider hextract, hlatest, ?_,
    rendered_render paths reports, fun m s starts hm => report_of_extract hm⟩
  rintro before path after rfl
  exact extract_passedOver fs provider hextract

/-- A unit with one variable, on the given line. -/
def unitAt (line : Nat) : SourceUnit where
  filePath := "a.c"
  source := ""
  mainFile := "a.c"
  root := .mk (.declaration ⟨.object, some "v", .plain ⟨0, "a.c", line, 1, 1⟩, none, false,
    some "int", none, none, false⟩) []
  diagnostics := []

theorem unitAt_splittable (line : Nat) : (unitAt line).Splittable := by
  intro position d name hv _ _ hd
  obtain ⟨-, ⟨-, hroot⟩ | ⟨before, n, after, -, hchildren, -⟩⟩ := Occurrence.visible_mk_iff.1 hv
  · cases hroot
    exact Bool.false_ne_true hd.1
  · simp at hchildren

/-- A provider that counts its calls and fails from the fourth one on. -/
def counting : Provider Nat := fun _ _ n =>
  (if n < 3 then .ok (unitAt (n + 1)) else .error (.invalidTree ""), n + 1)

/-- Two files, a directory, and a file that cannot be read. -/
def sampleFiles : FileSystem where
  lookup path :=
    if path = "a.c" ∨ path = "b.c" then .file []
    else if path = "d" then .directory
    else .unreadable "Permission denied (os error 13)"

def samplePaths : List String := ["a.c", "d", "b.c", "a.c", "x.c", "a.c"]

theorem extract_rendered_counting :
    calls sampleFiles samplePaths = [("a.c", ""), ("b.c", ""), ("a.c", ""), ("a.c", "")] ∧
    (∀ answer ∈ (answers counting (calls sampleFiles samplePaths) 0).1, ∀ u, answer.2 = .ok u →
      ∃ r, ReportedAs u r) ∧
    ∃ reports, (extract sampleFiles counting samplePaths).run 0 = .ok (reports, 4) ∧
      (extract sampleFiles (noting counting) samplePaths).run (0, []) =
        .ok (reports, 4, calls sampleFiles samplePaths) ∧
      ReportsLatest [("a.c", .ok (unitAt 1)), ("b.c", .ok (unitAt 2)), ("a.c", .ok (unitAt 3)),
        ("a.c", .error (.invalidTree ""))] reports ∧
      reports.entries.map (fun e => (e.1, e.2.objects.entries)) =
        [("a.c", [("v", ⟨"v", "int", 3⟩)]), ("b.c", [("v", ⟨"v", "int", 2⟩)])] := by
  have hcalls : calls sampleFiles samplePaths =
      [("a.c", ""), ("b.c", ""), ("a.c", ""), ("a.c", "")] := by
    decide +kernel
  have hanswers : answers counting (calls sampleFiles samplePaths) 0 =
      ([("a.c", .ok (unitAt 1)), ("b.c", .ok (unitAt 2)), ("a.c", .ok (unitAt 3)),
        ("a.c", .error (.invalidTree ""))], 4) := by
    rw [hcalls]
    rfl
  have hunit (line : Nat) : ∃ r, ReportedAs (unitAt line) r :=
    SourceUnit.report_ok_iff.2 (unitAt_splittable line)
  have hall : ∀ answer ∈ (answers counting (calls sampleFiles samplePaths) 0).1, ∀ u,
      answer.2 = .ok u → ∃ r, ReportedAs u r := by
    rw [hanswers]
    simp [hunit]
  obtain ⟨reports, last, hextract, rfl, hnoting, hlatest, -⟩ :=
    extract_rendered sampleFiles counting samplePaths 0 hall
  rw [hanswers] at hextract hnoting hlatest
  have hentries : ((extract sampleFiles counting samplePaths).run 0).toOption.map
      (fun p => p.1.entries.map fun e => (e.1, e.2.objects.entries)) =
      some [("a.c", [("v", ⟨"v", "int", 3⟩)]), ("b.c", [("v", ⟨"v", "int", 2⟩)])] := by
    decide +kernel
  refine ⟨hcalls, hall, reports, hextract, hnoting, hlatest, ?_⟩
  simpa [hextract, Except.toOption] using hentries

end Batch
end CSymbols
