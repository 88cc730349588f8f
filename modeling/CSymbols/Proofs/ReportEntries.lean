import CSymbols.Report
import CSymbols.Proofs.LatestEntry

/-! What a report holds: its two maps are the indexes of the occurrences that can be recorded as
functions and as variables. -/
namespace CSymbols.Report
open OrderedMap

/-- The record of a declaration that is bound to a function and has a line. -/
def functionRecord? (o : Occurrence) : Option FunctionDescriptor :=
  match o.role, o.binding, o.line with
  | .declaration, some (.function b), some line =>
    some ⟨o.name, b.returnType, b.parameterTypes, line⟩
  | _, _, _ => none

def objectRecord? (o : Occurrence) : Option ObjectDescriptor :=
  match o.role, o.binding, o.line with
  | .declaration, some (.object b), some line => some ⟨o.name, b.type, line⟩
  | _, _, _ => none

theorem record_functions (r : Report) (o : Occurrence) :
    (r.record o).functions = enter Occurrence.name functionRecord? r.functions o := by
  unfold record enter functionRecord?
  split <;> simp_all

theorem record_objects (r : Report) (o : Occurrence) :
    (r.record o).objects = enter Occurrence.name objectRecord? r.objects o := by
  unfold record enter objectRecord?
  split <;> simp_all

theorem ofOccurrences_functions (os : List Occurrence) :
    (ofOccurrences os).functions = ofItems Occurrence.name functionRecord? os := by
  unfold ofOccurrences ofItems
  exact (List.foldl_hom Report.functions fun r o => (record_functions r o).symm).symm

theorem ofOccurrences_objects (os : List Occurrence) :
    (ofOccurrences os).objects = ofItems Occurrence.name objectRecord? os := by
  unfold ofOccurrences ofItems
  exact (List.foldl_hom Report.objects fun r o => (record_objects r o).symm).symm

/-- Either map depends on the occurrences that it records alone. -/
theorem ofOccurrences_congr {os os' : List Occurrence} :
    (os.filter (fun o => (functionRecord? o).isSome) =
        os'.filter (fun o => (functionRecord? o).isSome) →
      (ofOccurrences os).functions = (ofOccurrences os').functions) ∧
    (os.filter (fun o => (objectRecord? o).isSome) =
        os'.filter (fun o => (objectRecord? o).isSome) →
      (ofOccurrences os).objects = (ofOccurrences os').objects) := by
  constructor <;> intro h
  · rw [ofOccurrences_functions, ofOccurrences_functions, ← ofItems_filter, h, ofItems_filter]
  · rw [ofOccurrences_objects, ofOccurrences_objects, ← ofItems_filter, h, ofItems_filter]

/-- Functions and variables are recorded apart from each other: each name once, in the order of the
first records and as the last record of the name has it. -/
theorem ofOccurrences_indexes (os : List Occurrence) :
    Indexes Occurrence.name functionRecord? (ofOccurrences os).functions os ∧
    Indexes Occurrence.name objectRecord? (ofOccurrences os).objects os ∧
    (∀ os', os.filter (fun o => (functionRecord? o).isSome) =
        os'.filter (fun o => (functionRecord? o).isSome) →
      (ofOccurrences os).functions = (ofOccurrences os').functions) ∧
    (∀ os', os.filter (fun o => (objectRecord? o).isSome) =
        os'.filter (fun o => (objectRecord? o).isSome) →
      (ofOccurrences os).objects = (ofOccurrences os').objects) ∧
    ∀ name, ∃ os', name ∈ (ofOccurrences os').functions.keys ∧
      name ∈ (ofOccurrences os').objects.keys := by
  have hf := fun os => indexes_ofItems Occurrence.name functionRecord? os
  have ho := fun os => indexes_ofItems Occurrence.name objectRecord? os
  simp only [← ofOccurrences_functions] at hf
  simp only [← ofOccurrences_objects] at ho
  refine ⟨hf os, ho os, fun os' => ofOccurrences_congr.1, fun os' => ofOccurrences_congr.2, ?_⟩
  intro name
  let f : Occurrence := ⟨name, .declaration, some (.function ⟨"int", [], {}⟩), some 1⟩
  let v : Occurrence := ⟨name, .declaration, some (.object ⟨"int", {}⟩), some 2⟩
  exact ⟨[f, v], ((hf _).mem_keys name).2 ⟨f, by simp, rfl, rfl⟩,
    ((ho _).mem_keys name).2 ⟨v, by simp, rfl, rfl⟩⟩

/-- Two declarations of a function around one of a variable with the same name, and a use. -/
def redeclared : List Occurrence :=
  [⟨"f", .declaration, some (.function ⟨"int", [], {}⟩), some 1⟩,
   ⟨"f", .reference, none, some 2⟩,
   ⟨"g", .declaration, some (.function ⟨"int", ["char"], {}⟩), some 3⟩,
   ⟨"f", .declaration, some (.object ⟨"long", {}⟩), some 4⟩,
   ⟨"f", .declaration, some (.function ⟨"void", ["int"], {}⟩), some 5⟩]

theorem ofOccurrences_redeclared :
    (ofOccurrences redeclared).functions.entries =
      [("f", ⟨"f", "void", ["int"], 5⟩), ("g", ⟨"g", "int", ["char"], 3⟩)] ∧
    (ofOccurrences redeclared).functions =
      (ofOccurrences (redeclared.filter fun o => (functionRecord? o).isSome)).functions ∧
    Indexes Occurrence.name functionRecord? (ofOccurrences redeclared).functions redeclared :=
  ⟨by decide, (ofOccurrences_indexes redeclared).2.2.1 _ (by decide),
    (ofOccurrences_indexes redeclared).1⟩

end CSymbols.Report
