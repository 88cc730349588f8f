import CSymbols.Batch
import CSymbols.Proofs.CutSpelling
import CSymbols.Proofs.LatestEntry
import CSymbols.Proofs.Visibility

/-! When a report can be made, and when it ends the batch that it was to be part of. -/
namespace CSymbols

open Occurrence (Visible)

namespace Binding

/-- The signature of a function is cut. The desugared type counts only if the other one has no
signature. -/
def Unsplittable (d : Tree.Declaration) : Prop :=
  d.kind.isFunction ∧ ((∃ t ∈ d.type, Spelling.IsCut t) ∨
    ((∀ t ∈ d.type, Spelling.splitFunctionType t = .ok none) ∧
      ∃ t ∈ d.desugaredType, Spelling.IsCut t))

theorem signature_error_iff {d : Tree.Declaration} :
    (∃ fault, signature d = .error fault) ↔ (∃ t ∈ d.type, Spelling.IsCut t) ∨
      ((∀ t ∈ d.type, Spelling.splitFunctionType t = .ok none) ∧
        ∃ t ∈ d.desugaredType, Spelling.IsCut t) := by
  have hd : (∃ fault, (d.desugaredType.map Spelling.splitFunctionType).getD (.ok none) =
      .error fault) ↔ ∃ t ∈ d.desugaredType, Spelling.IsCut t := by
    cases d.desugaredType with
    | none => simp
    | some t => simp [Spelling.splitFunctionType_error_iff]
  rw [← hd]
  cases ht : d.type with
  | none => simp [signature, ht, bind, Except.bind]
  | some t =>
    simp only [← Spelling.splitFunctionType_error_iff, Option.mem_def, Option.some.injEq,
      exists_eq_left', forall_eq']
    cases hs : Spelling.splitFunctionType t with
    | error fault => simp [signature, ht, hs, bind, Except.bind]
    | ok s => cases s <;> simp [signature, ht, hs, bind, Except.bind, pure, Except.pure]

theorem resolve_ok_iff {d : Tree.Declaration} :
    (∃ b, resolve d = .ok b) ↔ ¬Unsplittable d := by
  unfold Unsplittable
  rw [← signature_error_iff]
  unfold resolve
  cases hk : d.kind <;> simp only [Tree.DeclarationKind.isFunction]
  all_goals cases signature d <;> simp [Except.map]

end Binding

/-- No visible function with a name has a signature that is cut. -/
def SourceUnit.Splittable (u : SourceUnit) : Prop :=
  ∀ position d name, Visible u.mainFile u.root position (.declaration d) → d.name = some name →
    name ≠ "" → ¬Binding.Unsplittable d

theorem SourceUnit.report_ok_iff {u : SourceUnit} :
    (∃ r, u.report = .ok r) ↔ u.Splittable := by
  have hr : (∃ r, u.report = .ok r) ↔ ∃ os, Occurrence.ofTree u.mainFile u.root = .ok os := by
    unfold report occurrences
    cases Occurrence.ofTree u.mainFile u.root <;> simp [Except.map]
  rw [hr, Occurrence.ofTree_ok_iff]
  simp only [Binding.resolve_ok_iff, SourceUnit.Splittable]

/-- Types that are spelled in characters of one byte can always be split. -/
theorem SourceUnit.splittable_of_narrow {u : SourceUnit}
    (h : ∀ position d, Visible u.mainFile u.root position (.declaration d) →
      ∀ t, t ∈ d.type ∨ t ∈ d.desugaredType → ∀ c ∈ t.toList, ¬Spelling.Wide c) :
    u.Splittable := by
  rintro position d name hv - - ⟨-, ⟨t, ht, hcut⟩ | ⟨-, t, ht, hcut⟩⟩
  · obtain ⟨c, hc, hw⟩ := hcut.wide
    exact h position d hv t (.inl ht) c hc hw
  · obtain ⟨c, hc, hw⟩ := hcut.wide
    exact h position d hv t (.inr ht) c hc hw

namespace Batch
variable {σ : Type} (fs : FileSystem) (provider : Provider σ)

/-- The unit that the provider makes of a path, if it is asked and makes one. -/
def accept (path : String) (state : σ) : Option SourceUnit × σ :=
  match fs.bytes? path with
  | none => (none, state)
  | some bytes =>
    let (result, next) := (provider path (Text.Utf8.lossyText bytes)).run state
    (result.toOption, next)

/-- The units made of some paths, one after the other, and the state that the provider is left
in. -/
def accepted : List String → σ → List (String × SourceUnit) × σ
  | [], state => ([], state)
  | path :: paths, state =>
    let (unit, next) := accept fs provider path state
    let (units, last) := accepted paths next
    ((unit.map (path, ·)).toList ++ units, last)

def enterReports (reports : OrderedMap Report) (units : List (String × SourceUnit)) :
    Except Spelling.Fault (OrderedMap Report) :=
  units.foldlM (fun reports e => e.2.report.map (reports.insert e.1)) reports

theorem add_run (reports : OrderedMap Report) (path : String) (state : σ) :
    (add fs provider reports path).run state =
      (enterReports reports ((accept fs provider path state).1.map (path, ·)).toList).map
        (·, (accept fs provider path state).2) := by
  unfold add accept
  cases hb : fs.bytes? path with
  | none => simp [enterReports, StateT.run, Except.map, pure, Except.pure]
  | some bytes =>
    simp only [StateT.run]
    cases provider path (Text.Utf8.lossyText bytes) state with
    | mk result next =>
      cases result with
      | error e => simp [enterReports, Except.toOption, Except.map, pure, Except.pure]
      | ok unit =>
        cases hr : unit.report <;>
          simp [enterReports, Except.toOption, Except.map, hr, bind, Except.bind, pure, Except.pure]

/-- The provider does not depend on the reports, so it may as well have made all units before. -/
theorem foldlM_add (paths : List String) (reports : OrderedMap Report) (state : σ) :
    (paths.foldlM (add fs provider) reports).run state =
      (enterReports reports (accepted fs provider paths state).1).map
        (·, (accepted fs provider paths state).2) := by
  induction paths generalizing reports state with
  | nil => rfl
  | cons path paths ih =>
    rw [List.foldlM_cons, StateT.run_bind, add_run]
    simp only [ih, accepted, enterReports, List.foldlM_append]
    cases ((accept fs provider path state).1.map (path, ·)).toList.foldlM
      (fun reports e => e.2.report.map (reports.insert e.1)) reports <;>
      rfl

theorem enterReports_cons_ok_iff {reports all : OrderedMap Report} {e : String × SourceUnit}
    {units : List (String × SourceUnit)} : enterReports reports (e :: units) = .ok all ↔
      ∃ r, e.2.report = .ok r ∧ enterReports (reports.insert e.1 r) units = .ok all := by
  unfold enterReports
  rw [List.foldlM_cons]
  cases e.2.report <;> simp [Except.map, bind, Except.bind]

theorem enterReports_ok_iff {reports : OrderedMap Report} {units : List (String × SourceUnit)} :
    (∃ all, enterReports reports units = .ok all) ↔ ∀ e ∈ units, e.2.Splittable := by
  induction units generalizing reports with
  | nil => simp [enterReports, pure, Except.pure]
  | cons e units ih =>
    rw [List.forall_mem_cons, ← SourceUnit.report_ok_iff]
    simp only [enterReports_cons_ok_iff]
    constructor
    · rintro ⟨all, r, hr, hall⟩
      exact ⟨⟨r, hr⟩, ih.1 ⟨all, hall⟩⟩
    · rintro ⟨⟨r, hr⟩, hs⟩
      obtain ⟨all, hall⟩ := ih.2 hs
      exact ⟨all, r, hr, hall⟩

theorem isSome_get?_of_enterReports {reports all : OrderedMap Report}
    {units : List (String × SourceUnit)} (h : enterReports reports units = .ok all) {path : String}
    (hp : (reports.get? path).isSome ∨ ∃ e ∈ units, e.1 = path) : (all.get? path).isSome := by
  induction units generalizing reports with
  | nil =>
    obtain rfl : reports = all := Except.ok.inj h
    simpa using hp
  | cons e units ih =>
    obtain ⟨r, -, hall⟩ := enterReports_cons_ok_iff.1 h
    apply ih hall
    rw [OrderedMap.get?_insert]
    by_cases he : path = e.1
    · left
      rw [if_pos he]
      rfl
    · rw [if_neg he]
      refine hp.imp_right ?_
      rintro ⟨e', he', rfl⟩
      obtain rfl | he' := List.mem_cons.1 he'
      · exact absurd rfl he
      · exact ⟨e', he', rfl⟩

/-- A batch reports on every file that was accepted, unless one of the units cannot be split. -/
theorem extract_ok_iff (paths : List String) (state : σ) :
    (∃ reports last, (extract fs provider paths).run state = .ok (reports, last) ∧
      ∀ e ∈ (accepted fs provider paths state).1, (reports.get? e.1).isSome) ↔
      ∀ e ∈ (accepted fs provider paths state).1, e.2.Splittable := by
  unfold extract
  rw [foldlM_add, ← enterReports_ok_iff]
  constructor
  · rintro ⟨reports, last, h, -⟩
    cases hall : enterReports .empty (accepted fs provider paths state).1 with
    | error fault => simp [hall, Except.map] at h
    | ok all => exact ⟨all, rfl⟩
  · rintro ⟨all, hall⟩
    rw [hall]
    exact ⟨all, _, rfl, fun e he => isSome_get?_of_enterReports hall (.inr ⟨e, he, rfl⟩)⟩

end Batch

/-- There is a report on a unit just if the unit can be split; and a batch reports on all files that
were accepted just if all their units can. -/
theorem reported_iff_splittable (u : SourceUnit) {σ : Type} (fs : FileSystem)
    (provider : Provider σ) (paths : List String) (state : σ) :
    ((∃ r, Report.ofUnit (some u) = .ok r) ↔ u.Splittable) ∧
      ((∃ reports last, (Batch.extract fs provider paths).run state = .ok (reports, last) ∧
        ∀ e ∈ (Batch.accepted fs provider paths state).1, (reports.get? e.1).isSome) ↔
        ∀ e ∈ (Batch.accepted fs provider paths state).1, e.2.Splittable) :=
  ⟨SourceUnit.report_ok_iff, Batch.extract_ok_iff fs provider paths state⟩

/-- The declaration of a function that returns a structure whose name holds a wide letter. -/
def wideDocument : String :=
  "\x7b\"kind\":\"FunctionDecl\",\"loc\":\x7b\"offset\":13,\"file\":\"<stdin>\",\"line\":1," ++
  "\"col\":14,\"tokLen\":1\x7d,\"name\":\"f\"," ++
  "\"type\":\x7b\"qualType\":\"struct Größe (int)\"\x7d\x7d"

/-- A provider that makes the first unit of one path and the second one of all others. -/
def making (u v : SourceUnit) : Provider Unit :=
  fun path _ => pure (.ok (if path = "a.c" then u else v))

theorem wideDocument_ends_batch :
    ∃ u v, SourceUnit.ofDocument "a.c" "" "<stdin>" wideDocument = .ok u ∧
      Report.ofUnit (some u) = .error (.cutInside 'ß') ∧
      SourceUnit.ofDocument "b.c" "" "<stdin>" "\x7b\x7d" = .ok v ∧
      (∃ r, Report.ofUnit (some v) = .ok r) ∧
      (Batch.extract ⟨fun _ => .file []⟩ (making u v) ["a.c", "b.c"]).run () =
        .error (.cutInside 'ß') := by
  have hu : (Tree.parse? wideDocument).map (Occurrence.ofTree "<stdin>") =
      some (.error (.cutInside 'ß')) := by
    decide +kernel
  have hv : (Tree.parse? "\x7b\x7d").map (Occurrence.ofTree "<stdin>") = some (.ok []) := by
    decide +kernel
  obtain ⟨root, hroot, hcut⟩ := Option.map_eq_some_iff.1 hu
  obtain ⟨root', hroot', hempty⟩ := Option.map_eq_some_iff.1 hv
  have hr : SourceUnit.report ⟨"a.c", "", "<stdin>", root, []⟩ = .error (.cutInside 'ß') := by
    simp [SourceUnit.report, SourceUnit.occurrences, hcut, Except.map]
  refine ⟨⟨"a.c", "", "<stdin>", root, []⟩, ⟨"b.c", "", "<stdin>", root', []⟩, ?_, hr, ?_, ?_, ?_⟩
  · simp [SourceUnit.ofDocument, hroot]
  · simp [SourceUnit.ofDocument, hroot']
  · refine ⟨.ofOccurrences [], ?_⟩
    simp [Report.ofUnit, SourceUnit.report, SourceUnit.occurrences, hempty, Except.map]
  · rw [Batch.extract, List.foldlM_cons, StateT.run_bind, Batch.add_run]
    have ha : ∀ u v, Batch.accept ⟨fun _ => .file []⟩ (making u v) "a.c" () = (some u, ()) :=
      fun _ _ => rfl
    simp [ha, Batch.enterReports, hr, Except.map, bind, Except.bind]

end CSymbols
