import CSymbols.Batch
import CSymbols.Proofs.JsonLayout
import Mathlib.Data.List.Forall2

/-! The text of a report determines the report: what the object in it looks like, and a reader that
makes the report of it again. -/
namespace CSymbols

namespace Json

/-- An object has a member for each of some entries, in their order. -/
def Lists {α : Type} (tells : α → Json → Prop) (entries : List (String × α)) (v : Json) : Prop :=
  ∃ members, v = .object members ∧
    List.Forall₂ (fun e m => m.1 = some e.1 ∧ tells e.2 m.2) entries members

theorem lists_record {α : Type} {tells : α → Json → Prop} {f : α → Json}
    (h : ∀ a, tells a (f a)) (entries : List (String × α)) :
    Lists tells entries (record (entries.map fun e => (e.1, f e.2))) := by
  refine ⟨_, rfl, ?_⟩
  rw [List.map_map, List.forall₂_map_right_iff]
  apply List.forall₂_same.2
  intro e _
  exact ⟨rfl, h e.2⟩

theorem proper_entries {α : Type} {f : α → Json} (h : ∀ a, Proper (f a))
    (entries : List (String × α)) : Proper (record (entries.map fun e => (e.1, f e.2))) := by
  apply proper_record
  intro m hm
  obtain ⟨e, -, rfl⟩ := List.mem_map.1 hm
  exact h e.2

end Json

namespace OrderedMap
variable {α : Type}

/-- The map with the given entries, if no name comes twice. -/
def ofEntries? (entries : List (String × α)) : Option (OrderedMap α) :=
  if h : (entries.map Prod.fst).Nodup then some ⟨entries, h⟩ else none

/-- The entries of some members, whose values are read with their names. -/
def entriesOf? (read : String → Json → Option α) :
    List (Option String × Json) → Option (List (String × α))
  | [] => some []
  | (key, v) :: ms => do
    let name ← key
    let value ← read name v
    let entries ← entriesOf? read ms
    return (name, value) :: entries

theorem entriesOf?_map {read : String → Json → Option α} {f : α → Json}
    {entries : List (String × α)} (h : ∀ e ∈ entries, read e.1 (f e.2) = some e.2) :
    entriesOf? read (entries.map fun e => (some e.1, f e.2)) = some entries := by
  induction entries with
  | nil => rfl
  | cons e es ih =>
    have he : read e.1 (f e.2) = some e.2 := h e List.mem_cons_self
    have hes := ih fun e' he' => h e' (List.mem_cons_of_mem e he')
    simp [entriesOf?, he, hes]

def ofJson? (read : String → Json → Option α) : Json → Option (OrderedMap α)
  | .object members => (entriesOf? read members).bind ofEntries?
  | _ => none

theorem ofJson?_record {read : String → Json → Option α} {f : α → Json} {m : OrderedMap α}
    (h : ∀ e ∈ m.entries, read e.1 (f e.2) = some e.2) :
    ofJson? read (.record (m.entries.map fun e => (e.1, f e.2))) = some m := by
  have hentries : ofEntries? m.entries = some m := dif_pos m.nodup
  have hmap := entriesOf?_map h
  rw [Json.record, List.map_map, ofJson?]
  change (entriesOf? read (m.entries.map fun e => (some e.1, f e.2))).bind ofEntries? = some m
  rw [hmap]
  exact hentries

end OrderedMap

namespace FunctionDescriptor

/-- What an object says of a function. The parameters are a member of their own, which is there just
if there are any, and count from zero. -/
def ToldBy (d : FunctionDescriptor) (v : Json) : Prop :=
  ∃ parameters : List (Option String × Json),
    v = .object ((some "return", .text d.returnType) :: parameters ++
      [(some "line", .nat d.line)]) ∧
    (d.parameterTypes = [] → parameters = []) ∧
    (d.parameterTypes ≠ [] → ∃ types, parameters = [(some "parameters", .object types)] ∧
      types.length = d.parameterTypes.length ∧
      ∀ i t, d.parameterTypes[i]? = some t → types[i]? = some (some (Text.natText i), .text t))

theorem getElem?_positioned {types : List String} {i : Nat} {t : String} (h : types[i]? = some t) :
    (positioned types)[i]? = some (Text.natText i, .text t) := by
  simp [positioned, h]

theorem toldBy_toJson (d : FunctionDescriptor) : d.ToldBy d.toJson := by
  unfold ToldBy toJson
  by_cases hp : d.parameterTypes = []
  · refine ⟨[], ?_, fun _ => rfl, fun hne => absurd hp hne⟩
    rw [if_pos hp]
    rfl
  · refine ⟨[(some "parameters", .record (positioned d.parameterTypes))], ?_,
      fun h => absurd h hp, fun _ => ⟨_, rfl, ?_, ?_⟩⟩
    · rw [if_neg hp]
      rfl
    · simp [positioned]
    · intro i t ht
      simp [getElem?_positioned ht]

theorem proper_toJson (d : FunctionDescriptor) : Json.Proper d.toJson := by
  have htypes : Json.Proper (.record (positioned d.parameterTypes)) := by
    apply Json.proper_record
    intro m hm
    obtain ⟨t, -, rfl⟩ := List.mem_map.1 hm
    exact Json.proper_text _
  apply Json.proper_record
  intro m hm
  simp only [List.mem_append, List.mem_singleton, List.mem_ite_nil_left] at hm
  rcases hm with (rfl | ⟨-, rfl⟩) | rfl
  · exact Json.proper_text _
  · exact htypes
  · exact Json.proper_nat _

/-- The types under positions that count from a number on. -/
def typesFrom? (n : Nat) : List (Option String × Json) → Option (List String)
  | [] => some []
  | (key, v) :: ms =>
    if key = some (Text.natText n) then do
      let t ← v.text?
      let ts ← typesFrom? (n + 1) ms
      return t :: ts
    else none

def ofJson? (name : String) : Json → Option FunctionDescriptor
  | .object [(some "return", result), (some "line", line)] => do
    let returnType ← result.text?
    let line ← line.nat?
    return ⟨name, returnType, [], line⟩
  | .object [(some "return", result), (some "parameters", .object types),
      (some "line", line)] => do
    let returnType ← result.text?
    let types ← typesFrom? 0 types
    let line ← line.nat?
    return ⟨name, returnType, types, line⟩
  | _ => none

theorem typesFrom?_zipIdx (types : List String) (n : Nat) :
    typesFrom? n ((types.zipIdx n).map fun t => (some (Text.natText t.2), .text t.1)) =
      some types := by
  induction types generalizing n with
  | nil => rfl
  | cons t ts ih =>
    have hts := ih (n + 1)
    rw [List.zipIdx_cons, List.map_cons, typesFrom?, hts]
    simp [Json.text, Json.text?]

theorem typesFrom?_positioned (types : List String) :
    typesFrom? 0 ((positioned types).map fun m => (some m.1, m.2)) = some types := by
  have htypes := typesFrom?_zipIdx types 0
  rw [positioned, List.map_map]
  exact htypes

theorem ofJson?_toJson (d : FunctionDescriptor) : ofJson? d.name d.toJson = some d := by
  obtain ⟨name, returnType, types, line⟩ := d
  have hline : (Json.nat line).nat? = some line := Text.nat?_natText line
  have hreturn : (Json.text returnType).text? = some returnType := rfl
  by_cases htypes : types = []
  · subst htypes
    simp [toJson, Json.record, ofJson?, hline, hreturn]
  · have hread := typesFrom?_positioned types
    simp [toJson, Json.record, ofJson?, htypes, hline, hreturn, hread]

end FunctionDescriptor

namespace ObjectDescriptor

/-- What an object says of a variable. -/
def ToldBy (d : ObjectDescriptor) (v : Json) : Prop :=
  v = .object [(some "type", .text d.type), (some "line", .nat d.line)]

theorem toldBy_toJson (d : ObjectDescriptor) : d.ToldBy d.toJson := rfl

theorem proper_toJson (d : ObjectDescriptor) : Json.Proper d.toJson :=
  ⟨Json.proper_text _, Json.proper_nat _, trivial⟩

def ofJson? (name : String) : Json → Option ObjectDescriptor
  | .object [(some "type", type), (some "line", line)] => do
    let type ← type.text?
    let line ← line.nat?
    return ⟨name, type, line⟩
  | _ => none

theorem ofJson?_toJson (d : ObjectDescriptor) : ofJson? d.name d.toJson = some d := by
  obtain ⟨name, type, line⟩ := d
  have hline : (Json.nat line).nat? = some line := Text.nat?_natText line
  have htype : (Json.text type).text? = some type := rfl
  simp [toJson, Json.record, ofJson?, hline, htype]

end ObjectDescriptor

namespace Report

/-- Every descriptor has the name under which it stands. -/
def NamedByKey (r : Report) : Prop :=
  (∀ e ∈ r.objects.entries, e.2.name = e.1) ∧ ∀ e ∈ r.functions.entries, e.2.name = e.1

/-- What an object says of a report: the variables, then the functions, and nothing else. -/
def ToldBy (r : Report) (v : Json) : Prop :=
  ∃ objects functions, v = .object [(some "variables", objects), (some "functions", functions)] ∧
    Json.Lists ObjectDescriptor.ToldBy r.objects.entries objects ∧
    Json.Lists FunctionDescriptor.ToldBy r.functions.entries functions

theorem toldBy_toJson (r : Report) : r.ToldBy r.toJson :=
  ⟨_, _, rfl, Json.lists_record ObjectDescriptor.toldBy_toJson _,
    Json.lists_record FunctionDescriptor.toldBy_toJson _⟩

theorem proper_toJson (r : Report) : Json.Proper r.toJson :=
  ⟨Json.proper_entries ObjectDescriptor.proper_toJson _,
    Json.proper_entries FunctionDescriptor.proper_toJson _, trivial⟩

/-- The report that an object tells. -/
def ofJson? : Json → Option Report
  | .object [(some "variables", objects), (some "functions", functions)] => do
    let objects ← OrderedMap.ofJson? ObjectDescriptor.ofJson? objects
    let functions ← OrderedMap.ofJson? FunctionDescriptor.ofJson? functions
    return ⟨objects, functions⟩
  | _ => none

theorem ofJson?_toJson {r : Report} (h : r.NamedByKey) : ofJson? r.toJson = some r := by
  have hobject : ∀ e ∈ r.objects.entries, ObjectDescriptor.ofJson? e.1 e.2.toJson = some e.2 := by
    intro e he
    rw [← h.1 e he]
    exact e.2.ofJson?_toJson
  have hfunction : ∀ e ∈ r.functions.entries,
      FunctionDescriptor.ofJson? e.1 e.2.toJson = some e.2 := by
    intro e he
    rw [← h.2 e he]
    exact e.2.ofJson?_toJson
  have hobjects := OrderedMap.ofJson?_record hobject
  have hfunctions := OrderedMap.ofJson?_record hfunction
  change (do
    let objects ← OrderedMap.ofJson? ObjectDescriptor.ofJson? _
    let functions ← OrderedMap.ofJson? FunctionDescriptor.ofJson? _
    return (⟨objects, functions⟩ : Report)) = some r
  rw [hobjects, hfunctions]
  rfl

end Report

namespace Batch

theorem proper_toJson (reports : OrderedMap Report) : Json.Proper (toJson reports) :=
  Json.proper_entries Report.proper_toJson _

/-- For several paths, or none, the output is one object with the reports under their paths. -/
theorem render_of_length_ne_one {paths : List String} (h : paths.length ≠ 1)
    (reports : OrderedMap Report) : render paths reports = some (toJson reports).pretty := by
  unfold render
  split
  · exact absurd rfl h
  · rfl

theorem lists_toJson (reports : OrderedMap Report) :
    Json.Lists (fun r v => r.ToldBy v ∧ Json.parse? r.toJson.pretty = some v) reports.entries
      (toJson reports) := by
  apply Json.lists_record
  intro r
  exact ⟨r.toldBy_toJson, Json.parse?_pretty r.proper_toJson⟩

end Batch

/-- The indented text of a report and the compact one are read as the same object, which tells the
report in the order of its maps and from which the report is made again. In the output for several
files each path has the object of its report. -/
theorem Report.texts_read_back (r : Report) (h : r.NamedByKey) :
    (∃ v, Json.parse? r.toJson.pretty = some v ∧ r.ToldBy v ∧ Report.ofJson? v = some r ∧
      Json.parse? r.toJson.compact = some v) ∧
    ∀ (paths : List String) (reports : OrderedMap Report), paths.length ≠ 1 →
      ∃ text v, Batch.render paths reports = some text ∧ Json.parse? text = some v ∧
        Json.Lists (fun r v => r.ToldBy v ∧ Json.parse? r.toJson.pretty = some v)
          reports.entries v := by
  constructor
  · have hproper := r.proper_toJson
    exact ⟨r.toJson, Json.parse?_pretty hproper, r.toldBy_toJson, ofJson?_toJson h,
      Json.parse?_compact hproper⟩
  · intro paths reports hlength
    have hrender := Batch.render_of_length_ne_one hlength reports
    exact ⟨_, _, hrender, Json.parse?_pretty (Batch.proper_toJson reports),
      Batch.lists_toJson reports⟩

/-- Names with characters that are escaped, and a function with more than ten parameters. -/
def escapedReport : Report where
  objects := ⟨[("a\"\\\x01", ⟨"a\"\\\x01", "char *", 4294967295⟩)], by decide⟩
  functions := ⟨[("𝄞\n", ⟨"𝄞\n", "größe", List.replicate 12 "int", 7⟩), ("", ⟨"", "", [], 0⟩)],
    by decide⟩

theorem Report.texts_read_back_escaped :
    escapedReport.NamedByKey ∧
    (∃ v, Json.parse? escapedReport.toJson.pretty = some v ∧ escapedReport.ToldBy v ∧
      Report.ofJson? v = some escapedReport ∧
      Json.parse? escapedReport.toJson.compact = some v) ∧
    ["a.c", "a.c"].length ≠ 1 ∧
    ∃ text v, Batch.render ["a.c", "a.c"] (OrderedMap.empty.insert "a.c" escapedReport) =
        some text ∧ Json.parse? text = some v ∧
      Json.Lists (fun r v => r.ToldBy v ∧ Json.parse? r.toJson.pretty = some v)
        [("a.c", escapedReport)] v := by
  have hnamed : escapedReport.NamedByKey := ⟨by decide, by decide⟩
  have hlength : ["a.c", "a.c"].length ≠ 1 := by decide
  obtain ⟨hreport, hbatch⟩ := Report.texts_read_back escapedReport hnamed
  exact ⟨hnamed, hreport, hlength, hbatch ["a.c", "a.c"] _ hlength⟩

end CSymbols
