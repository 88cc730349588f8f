import CSymbols.Proofs.Preorder
import Mathlib.Data.List.Forall2

/-! Which nodes are visible, and that the occurrences are those of the visible nodes that have a
name, each once, in the order of their positions. -/
namespace CSymbols.Occurrence
open CSymbols.Tree

/-- A node is visible at a position below a root if it and all nodes above it are looked at. -/
inductive Visible (mainFile : String) : Node → List Nat → Content → Prop
  | root {c : Content} {children : List Node} (h : Shown mainFile c) :
      Visible mainFile (.mk c children) [] c
  | child {c d : Content} {before after : List Node} {n : Node} {position : List Nat}
      (h : Shown mainFile c) (hk : Kept c before n) (hv : Visible mainFile n position d) :
      Visible mainFile (.mk c (before ++ n :: after)) (before.length :: position) d

/-- The line of a location in 32 bits; a line zero is none. -/
def IsLine (location : Location) (line : Option Nat) : Prop :=
  ∀ n, line = some n ↔ 0 < n ∧ ∃ p ∈ location.place?, p.line % 4294967296 = n

/-- The occurrence that a node itself is. -/
def IsOccurrence (o : Occurrence) : Content → Prop
  | .declaration d => d.name = some o.name ∧ o.name ≠ "" ∧ o.role = .declaration ∧
      Binding.resolve d = .ok o.binding ∧ IsLine d.location o.line
  | .reference r => r.target.or r.name = some o.name ∧ o.name ≠ "" ∧ o.role = .reference ∧
      o.binding = none ∧ IsLine r.location o.line
  | .other _ => False

theorem visible_mk_iff {mainFile : String} {c d : Content} {children : List Node}
    {position : List Nat} :
    Visible mainFile (.mk c children) position d ↔ Shown mainFile c ∧
      ((position = [] ∧ d = c) ∨ ∃ before n after below, children = before ++ n :: after ∧
        position = before.length :: below ∧ Kept c before n ∧ Visible mainFile n below d) := by
  constructor
  · intro h
    cases h with
    | root h => exact ⟨h, .inl ⟨rfl, rfl⟩⟩
    | child h hk hv => exact ⟨h, .inr ⟨_, _, _, _, rfl, rfl, hk, hv⟩⟩
  · rintro ⟨h, ⟨rfl, rfl⟩ | ⟨before, n, after, below, rfl, rfl, hk, hv⟩⟩
    · exact .root h
    · exact .child h hk hv

theorem mem_trailChildren_iff {mainFile : String} {parent d : Content} {position : List Nat}
    (ns before : List Node) :
    (position, d) ∈ trailChildren mainFile parent before ns ↔
      ∃ passed n after below, ns = passed ++ n :: after ∧
        position = (before ++ passed).length :: below ∧ Kept parent (before ++ passed) n ∧
        (below, d) ∈ trail mainFile n := by
  induction ns generalizing before with
  | nil => simp [trailChildren]
  | cons m ms ih =>
    rw [trailChildren, List.mem_append, ih]
    constructor
    · rintro (h | ⟨passed, n, after, below, rfl, rfl, hk, hv⟩)
      · split_ifs at h with hk
        · obtain ⟨⟨below, e⟩, hv, he⟩ := List.mem_map.1 h
          obtain ⟨rfl, rfl⟩ := Prod.mk.inj he
          exact ⟨[], m, ms, below, rfl, by simp, by simpa using hk, hv⟩
        · simp at h
      · exact ⟨m :: passed, n, after, below, rfl, by simp, by simpa using hk, hv⟩
    · rintro ⟨passed, n, after, below, he, rfl, hk, hv⟩
      cases passed with
      | nil =>
        obtain ⟨rfl, rfl⟩ := List.cons.inj he
        left
        rw [if_pos (by simpa using hk)]
        exact List.mem_map.2 ⟨(below, d), hv, by simp⟩
      | cons m' passed =>
        obtain ⟨rfl, rfl⟩ := List.cons.inj he
        exact .inr ⟨passed, n, after, below, rfl, by simp, by simpa using hk, hv⟩

theorem mem_trail_iff {mainFile : String} {root : Node} {position : List Nat} {d : Content} :
    (position, d) ∈ trail mainFile root ↔ Visible mainFile root position d := by
  induction root generalizing position with
  | mk c children ih =>
    rw [visible_mk_iff, trail]
    split_ifs with hs
    · rw [List.mem_cons, mem_trailChildren_iff, Prod.mk.injEq]
      simp only [hs, true_and, List.nil_append]
      refine or_congr_right ⟨?_, ?_⟩
      · rintro ⟨before, n, after, below, rfl, hp, hk, hv⟩
        exact ⟨before, n, after, below, rfl, hp, hk, (ih n (by simp)).1 hv⟩
      · rintro ⟨before, n, after, below, rfl, hp, hk, hv⟩
        exact ⟨before, n, after, below, rfl, hp, hk, (ih n (by simp)).2 hv⟩
    · simp [hs]

/-- Positions on the trail rise in the lexicographic order, in which a node stands in front of all
below it. -/
theorem trail_sorted (mainFile : String) (root : Node) :
    (trail mainFile root).Pairwise fun v w => v.1 < w.1 := by
  induction root with
  | mk c children ih =>
    have hc : ∀ before, (trailChildren mainFile c before children).Pairwise
        fun v w => v.1 < w.1 := by
      induction children with
      | nil => intro before; exact .nil
      | cons n ns ihn =>
        intro before
        have hns := ihn (fun m hm => ih m (List.mem_cons_of_mem n hm)) (before ++ [n])
        rw [trailChildren]
        refine List.pairwise_append.2 ⟨?_, hns, ?_⟩
        -- Below one child the first number is the same; later children have greater ones.
        · split_ifs
          · refine List.pairwise_map.2 ((ih n List.mem_cons_self).imp ?_)
            intro v w h
            exact List.cons_lt_cons_iff.2 (.inr ⟨rfl, h⟩)
          · exact .nil
        · rintro ⟨v, _⟩ hv ⟨w, _⟩ hw
          obtain ⟨passed, _, _, below, _, rfl, _, _⟩ := (mem_trailChildren_iff ns _).1 hw
          split_ifs at hv
          · obtain ⟨u, _, hu⟩ := List.mem_map.1 hv
            obtain ⟨rfl, _⟩ := Prod.mk.inj hu
            exact List.cons_lt_cons_iff.2 (.inl (by simp))
          · simp at hv
    rw [trail]
    split_ifs
    · refine List.pairwise_cons.2 ⟨?_, hc []⟩
      rintro ⟨w, _⟩ hw
      obtain ⟨_, _, _, _, _, rfl, _, _⟩ := (mem_trailChildren_iff children _).1 hw
      exact List.nil_lt_cons _ _
    · exact .nil

theorem isLine_iff {location : Location} {line : Option Nat} :
    IsLine location line ↔ line = lineOf location := by
  have h : ∀ n, lineOf location = some n ↔
      0 < n ∧ ∃ p ∈ location.place?, p.line % 4294967296 = n := by
    intro n
    cases hp : location.place? with
    | none => simp [lineOf, hp]
    | some p =>
      simp only [lineOf, hp, Option.map_some, Option.filter_eq_some_iff, Option.some.injEq,
        Option.mem_def, exists_eq_left', decide_eq_true_eq]
      exact And.comm
  rw [Option.ext_iff]
  exact forall_congr' fun n => by rw [h n]

theorem nonEmpty_eq_some_iff {name : Option String} {s : String} :
    nonEmpty name = some s ↔ name = some s ∧ s ≠ "" := by
  simp [nonEmpty, Option.filter_eq_some_iff]

theorem ofContent_declaration {d : Declaration} {name : String} (hn : d.name = some name)
    (he : name ≠ "") : ofContent (.declaration d) = (Binding.resolve d).map fun b =>
      some ⟨name, .declaration, b, lineOf d.location⟩ := by
  simp only [ofContent, nonEmpty_eq_some_iff.2 ⟨hn, he⟩]

theorem ofContent_eq_some_iff {c : Content} {o : Occurrence} :
    ofContent c = .ok (some o) ↔ IsOccurrence o c := by
  obtain ⟨name, role, binding, line⟩ := o
  cases c with
  | declaration d =>
    simp only [IsOccurrence, isLine_iff]
    cases hn : nonEmpty d.name with
    | none =>
      have hno : ¬ (d.name = some name ∧ name ≠ "") := by simp [← nonEmpty_eq_some_iff, hn]
      simp only [ofContent, hn]
      grind
    | some s =>
      obtain ⟨hs, he⟩ := nonEmpty_eq_some_iff.1 hn
      rw [ofContent_declaration hs he]
      cases Binding.resolve d with
      | error fault => simp [Except.map]
      | ok b =>
        simp only [Except.map, Except.ok.injEq, Option.some.injEq, Occurrence.mk.injEq, hs]
        grind
  | reference r =>
    simp only [ofContent, referredName, IsOccurrence, isLine_iff, Except.ok.injEq,
      Option.map_eq_some_iff, nonEmpty_eq_some_iff, Occurrence.mk.injEq]
    grind
  | other o => simp [ofContent, IsOccurrence]

theorem ofContent_ok_iff {c : Content} :
    (∃ own, ofContent c = .ok own) ↔ ∀ d name, c = .declaration d → d.name = some name →
      name ≠ "" → ∃ b, Binding.resolve d = .ok b := by
  cases c with
  | declaration d =>
    cases hn : nonEmpty d.name with
    | none =>
      have hno : ∀ name, d.name = some name → ¬ name ≠ "" := by
        intro name hs he
        rw [nonEmpty_eq_some_iff.2 ⟨hs, he⟩] at hn
        cases hn
      simp only [ofContent, hn]
      grind
    | some s =>
      obtain ⟨hs, he⟩ := nonEmpty_eq_some_iff.1 hn
      rw [ofContent_declaration hs he]
      cases hb : Binding.resolve d with
      | error fault => simp [Except.map, hs, he, hb]
      | ok b =>
        refine ⟨?_, fun _ => ⟨_, rfl⟩⟩
        rintro _ _ _ ⟨rfl⟩ _ _
        exact ⟨b, hb⟩
  | reference r => simp [ofContent]
  | other o => simp [ofContent]

theorem names_cons_ok_iff {c : Content} {cs : List Content} {os : List Occurrence} :
    names (c :: cs) = .ok os ↔
      ∃ own rest, ofContent c = .ok own ∧ names cs = .ok rest ∧ os = own.toList ++ rest := by
  rw [names]
  cases ofContent c with
  | error fault => simp [bind, Except.bind]
  | ok own =>
    cases names cs with
    | error fault => simp [bind, Except.bind]
    | ok rest => simp [bind, Except.bind, pure, Except.pure, eq_comm]

theorem names_ok_iff {cs : List Content} :
    (∃ os, names cs = .ok os) ↔ ∀ c ∈ cs, ∃ own, ofContent c = .ok own := by
  induction cs with
  | nil => simp [names, pure, Except.pure]
  | cons c cs ih =>
    rw [List.forall_mem_cons, ← ih]
    constructor
    · rintro ⟨os, h⟩
      obtain ⟨own, rest, hc, hr, -⟩ := names_cons_ok_iff.1 h
      exact ⟨⟨own, hc⟩, rest, hr⟩
    · rintro ⟨⟨own, hc⟩, rest, hr⟩
      exact ⟨_, names_cons_ok_iff.2 ⟨own, rest, hc, hr, rfl⟩⟩

def isNamed (c : Content) : Bool := (ofContent c).toOption.join.isSome

theorem isNamed_iff {c : Content} : isNamed c ↔ ∃ o, IsOccurrence o c := by
  simp only [← ofContent_eq_some_iff, isNamed]
  cases ofContent c with
  | error fault => simp [Except.toOption]
  | ok own => cases own <;> simp [Except.toOption]

/-- Each occurrence is that of one node, and nodes that are none leave no trace. -/
theorem names_forall₂ {vs : List (List Nat × Content)} {os : List Occurrence}
    (h : names (vs.map Prod.snd) = .ok os) :
    List.Forall₂ (fun v o => IsOccurrence o v.2) (vs.filter fun v => isNamed v.2) os := by
  induction vs generalizing os with
  | nil =>
    obtain rfl : [] = os := Except.ok.inj h
    exact .nil
  | cons v vs ih =>
    obtain ⟨own, rest, hv, hr, rfl⟩ := names_cons_ok_iff.1 h
    cases own with
    | none =>
      have hn : isNamed v.2 = false := by simp [isNamed, hv, Except.toOption]
      simpa [hn] using ih hr
    | some o =>
      have hn : isNamed v.2 = true := by simp [isNamed, hv, Except.toOption]
      simpa [hn] using And.intro (ofContent_eq_some_iff.1 hv) (ih hr)

theorem ofTree_eq_walk (mainFile : String) (root : Node) :
    ofTree mainFile root = walk mainFile root := by
  rw [ofTree_eq_names, walk_eq_names, contents]

/-- There is a list of occurrences just if all visible declarations with a name can be resolved. -/
theorem ofTree_ok_iff {mainFile : String} {root : Node} :
    (∃ os, ofTree mainFile root = .ok os) ↔ ∀ position d name,
      Visible mainFile root position (.declaration d) → d.name = some name → name ≠ "" →
        ∃ b, Binding.resolve d = .ok b := by
  simp only [ofTree_eq_names, names_ok_iff, contents, List.mem_map, Prod.exists,
    ofContent_ok_iff, exists_eq_right]
  simp only [mem_trail_iff]
  constructor
  · intro h position d name hv hn he
    exact h _ ⟨position, hv⟩ d name rfl hn he
  · rintro h _ ⟨position, hv⟩ d name rfl hn he
    exact h position d name hv hn he

/-- Occurrences of the visible nodes with a name, one of each, in the order of their positions. -/
def InDocumentOrder (mainFile : String) (root : Node) (os : List Occurrence) : Prop :=
  ∃ positions : List (List Nat), positions.Pairwise (· < ·) ∧
    (∀ position, position ∈ positions ↔
      ∃ c o, Visible mainFile root position c ∧ IsOccurrence o c) ∧
    List.Forall₂ (fun position o => ∃ c, Visible mainFile root position c ∧ IsOccurrence o c)
      positions os

theorem inDocumentOrder_of_ofTree {mainFile : String} {root : Node} {os : List Occurrence}
    (h : ofTree mainFile root = .ok os) : InDocumentOrder mainFile root os := by
  refine ⟨((trail mainFile root).filter fun v => isNamed v.2).map Prod.fst, ?_, ?_, ?_⟩
  · exact List.pairwise_map.2 ((trail_sorted mainFile root).filter _)
  · intro position
    simp [isNamed_iff, mem_trail_iff]
  · rw [ofTree_eq_names] at h
    have hm : ∀ v ∈ (trail mainFile root).filter fun v => isNamed v.2,
        Visible mainFile root v.1 v.2 := by
      intro v hv
      exact mem_trail_iff.1 (List.mem_filter.1 hv).1
    have hf := (List.forall₂_and_left _ _).2 ⟨hm, names_forall₂ h⟩
    exact List.forall₂_map_left_iff.2 (hf.imp fun v o h => ⟨v.2, h⟩)

/-- If every visible declaration with a name can be resolved, the occurrences are those of the
recursive walk, and each visible node with a name has one. -/
theorem ofTree_in_document_order (mainFile : String) (root : Node)
    (hr : ∀ position d name, Visible mainFile root position (.declaration d) →
      d.name = some name → name ≠ "" → ∃ b, Binding.resolve d = .ok b) :
    ∃ os, ofTree mainFile root = .ok os ∧ walk mainFile root = .ok os ∧
      InDocumentOrder mainFile root os := by
  obtain ⟨os, hos⟩ := ofTree_ok_iff.2 hr
  exact ⟨os, hos, (ofTree_eq_walk mainFile root).symm.trans hos, inDocumentOrder_of_ofTree hos⟩

/-- Templates of a function, a class and a variable, each with an instantiation, behind a
declaration from a header. -/
def templateTree : Node :=
  let place (file : String) (line : Nat) : Location := .plain ⟨0, file, line, 1, 1⟩
  let declared (kind : DeclarationKind) (name file : String) (line : Nat) (type : Option String) :
      Content := .declaration ⟨kind, name, place file line, none, false, type, none, none, false⟩
  .mk (.other ⟨.absent, none, false⟩)
    [.mk (declared .function "abs" "abs.h" 4 "int (int)") [],
     .mk (declared .functionTemplate "id" "id.cc" 2 none)
      [.mk (declared .function "id" "id.cc" 2 "T (T)")
        [.mk (.reference ⟨.name, some "x", none, place "id.cc" 4294967296, none, false⟩) []],
       .mk (declared .function "id" "id.cc" 2 "int (int)") []],
     .mk (declared .classTemplate "Box" "id.cc" 3 none)
      [.mk (declared .field "item" "id.cc" 3 "T") [],
       .mk (declared .classTemplateSpecialization "Box" "id.cc" 3 none)
        [.mk (declared .field "item" "id.cc" 3 "int") []],
       .mk (declared .method "get" "id.cc" 4 "T ()") []],
     .mk (declared .variableTemplate "zero" "id.cc" 5 none)
      [.mk (declared .object "zero" "id.cc" 5 "T") [],
       .mk (declared .variableTemplateSpecialization "zero" "id.cc" 5 "int") []],
     .mk (declared .object "x" "id.cc" 4294967303 "int") []]

theorem ofTree_templateTree :
    (∃ os, ofTree "id.cc" templateTree = .ok os ∧
      os.map (fun o => (o.name, o.line)) =
        [("id", some 2), ("id", some 2), ("x", none), ("Box", some 3), ("item", some 3),
          ("get", some 4), ("zero", some 5), ("zero", some 5), ("x", some 7)]) ∧
    ∃ os, ofTree "id.cc" templateTree = .ok os ∧ walk "id.cc" templateTree = .ok os ∧
      InDocumentOrder "id.cc" templateTree os := by
  have h : ofTree "id.cc" templateTree = .ok
      [⟨"id", .declaration, some .other, some 2⟩,
       ⟨"id", .declaration, some (.function ⟨"T", ["T"], {}⟩), some 2⟩,
       ⟨"x", .reference, none, none⟩,
       ⟨"Box", .declaration, some .other, some 3⟩,
       ⟨"item", .declaration, some (.object ⟨"T", {}⟩), some 3⟩,
       ⟨"get", .declaration, some (.function ⟨"T", [], {}⟩), some 4⟩,
       ⟨"zero", .declaration, some .other, some 5⟩,
       ⟨"zero", .declaration, some (.object ⟨"T", {}⟩), some 5⟩,
       ⟨"x", .declaration, some (.object ⟨"int", {}⟩), some 7⟩] := by
    decide +kernel
  exact ⟨⟨_, h, rfl⟩, ofTree_in_document_order "id.cc" templateTree (ofTree_ok_iff.1 ⟨_, h⟩)⟩

end CSymbols.Occurrence
