import CSymbols.Occurrence
import Mathlib.Data.List.Basic
import Mathlib.Data.List.Forall2
import Mathlib.Order.Basic

/-! The order of the occurrences: the stack of a cursor against the recursive walk through the tree,
and that walk against the positions of the nodes. -/
namespace CSymbols.Tree.Node

/-- Induction over trees: a property of all children passes to their parent. -/
@[elab_as_elim, induction_eliminator]
theorem induction {motive : Node → Prop}
    (mk : ∀ content children, (∀ n ∈ children, motive n) → motive (.mk content children)) :
    ∀ n, motive n
  | .mk content children => mk content children fun n _ => induction mk n

end CSymbols.Tree.Node

namespace CSymbols.Occurrence
open CSymbols.Tree

/-- A node is looked at if the compiler did not make it up and it does not stand in another file
than the main one. -/
def Shown (mainFile : String) (c : Content) : Prop :=
  c.isImplicit = false ∧ ∀ p ∈ c.location.place?, p.file = mainFile

instance (mainFile : String) (c : Content) : Decidable (Shown mainFile c) :=
  inferInstanceAs (Decidable (_ ∧ _))

/-- A node declares a function, be it a member or not. -/
def DeclaresFunction (n : Node) : Prop :=
  n.content.declarationKind? ∈ [some .function, some .method, some .constructor, some .destructor,
    some .conversion]

instance (n : Node) : Decidable (DeclaresFunction n) := inferInstanceAs (Decidable (_ ∈ _))

theorem isFunction_iff {n : Node} : isFunction n ↔ DeclaresFunction n := by
  unfold isFunction DeclaresFunction
  cases n.content.declarationKind? with
  | none => simp
  | some k => cases k <;> decide

theorem hasKind_iff {k : DeclarationKind} {n : Node} :
    hasKind k n ↔ n.content.declarationKind? = some k :=
  beq_iff_eq

/-- A child is looked at, given the siblings in front of it, unless it is an instantiation of the
template that its parent declares. -/
def Kept (parent : Content) (before : List Node) (n : Node) : Prop :=
  (parent.declarationKind? = some .functionTemplate →
    DeclaresFunction n → ∀ m ∈ before, ¬ DeclaresFunction m) ∧
  (parent.declarationKind? = some .classTemplate →
    n.content.declarationKind? ≠ some .classTemplateSpecialization) ∧
  (parent.declarationKind? = some .variableTemplate →
    n.content.declarationKind? ≠ some .variableTemplateSpecialization)

instance (parent : Content) (before : List Node) (n : Node) : Decidable (Kept parent before n) :=
  inferInstanceAs (Decidable (_ ∧ _ ∧ _))

mutual

/-- The occurrences in a tree by recursion: a node, then its children from left to right. -/
def walk (mainFile : String) : Node → Except Spelling.Fault (List Occurrence)
  | .mk c children =>
    if Shown mainFile c then do
      let own ← ofContent c
      let below ← walkChildren mainFile c [] children
      return own.toList ++ below
    else return []

def walkChildren (mainFile : String) (parent : Content) (before : List Node) :
    List Node → Except Spelling.Fault (List Occurrence)
  | [] => return []
  | n :: ns => do
    let here ← if Kept parent before n then walk mainFile n else pure []
    let rest ← walkChildren mainFile parent (before ++ [n]) ns
    return here ++ rest

end

mutual

/-- The visible nodes of a tree in the order of the walk, with their positions. -/
def trail (mainFile : String) : Node → List (List Nat × Content)
  | .mk c children =>
    if Shown mainFile c then ([], c) :: trailChildren mainFile c [] children else []

def trailChildren (mainFile : String) (parent : Content) (before : List Node) :
    List Node → List (List Nat × Content)
  | [] => []
  | n :: ns =>
    (if Kept parent before n then
      (trail mainFile n).map fun v => (before.length :: v.1, v.2) else []) ++
    trailChildren mainFile parent (before ++ [n]) ns

end

def names : List Content → Except Spelling.Fault (List Occurrence)
  | [] => return []
  | c :: cs => do
    let own ← ofContent c
    let rest ← names cs
    return own.toList ++ rest

theorem names_append (cs ds : List Content) :
    names (cs ++ ds) = do return (← names cs) ++ (← names ds) := by
  induction cs with
  | nil => simp [names]
  | cons c cs ih =>
    simp only [List.cons_append, names, ih, bind_assoc, pure_bind, List.append_assoc]

theorem walk_eq_names (mainFile : String) (n : Node) :
    walk mainFile n = names ((trail mainFile n).map Prod.snd) := by
  induction n with
  | mk c children ih =>
    -- Which child is kept depends on its siblings in front, so these vary through the children.
    have hc : ∀ before, walkChildren mainFile c before children =
        names ((trailChildren mainFile c before children).map Prod.snd) := by
      induction children with
      | nil => intro before; rfl
      | cons n ns ihn =>
        intro before
        have hn := ih n List.mem_cons_self
        have hns := ihn (fun m hm => ih m (List.mem_cons_of_mem n hm)) (before ++ [n])
        simp only [walkChildren, trailChildren, List.map_append, names_append, hns]
        split_ifs with hk
        · rw [hn, List.map_map]
          rfl
        · rfl
    by_cases hs : Shown mainFile c
    · simp only [walk, trail, if_pos hs, List.map_cons, names, hc]
    · simp only [walk, trail, if_neg hs, List.map_nil, names]

def keptFrom (parent : Content) (before : List Node) : List Node → List Node
  | [] => []
  | n :: ns =>
    if Kept parent before n then n :: keptFrom parent (before ++ [n]) ns
    else keptFrom parent (before ++ [n]) ns

theorem keptFrom_eq_filter {parent : Content} {p : Node → Bool}
    (hp : ∀ before n, Kept parent before n ↔ p n) (ns before : List Node) :
    keptFrom parent before ns = ns.filter p := by
  induction ns generalizing before with
  | nil => rfl
  | cons n ns ih =>
    rw [keptFrom, ih, List.filter_cons]
    simp only [hp]

theorem keptFrom_functionTemplate {parent : Content}
    (hp : parent.declarationKind? = some .functionTemplate) (ns before : List Node) :
    keptFrom parent before ns =
      if ∃ m ∈ before, isFunction m then ns.filter (!isFunction ·) else keepFirstFunction ns := by
  have hk : ∀ before n, Kept parent before n ↔ (isFunction n → ¬ ∃ m ∈ before, isFunction m) := by
    simp [Kept, hp, ← isFunction_iff]
  induction ns generalizing before with
  | nil => simp [keptFrom, keepFirstFunction]
  | cons n ns ih =>
    have hn : (∃ m ∈ before ++ [n], isFunction m) ↔
        (∃ m ∈ before, isFunction m) ∨ isFunction n := by
      simp [or_and_right, exists_or]
    simp only [keptFrom, hk, ih, hn, keepFirstFunction, List.filter_cons]
    by_cases hf : isFunction n <;> by_cases hb : ∃ m ∈ before, isFunction m <;> simp only [hf, hb]
    all_goals simp

theorem keptFrom_nil (parent : Content) (ns : List Node) :
    keptFrom parent [] ns = keptChildren parent ns := by
  unfold keptChildren
  split
  · next h => simp [keptFrom_functionTemplate h]
  · next h => exact keptFrom_eq_filter (by simp [Kept, h, ← hasKind_iff]) ns []
  · next h => exact keptFrom_eq_filter (by simp [Kept, h, ← hasKind_iff]) ns []
  · next h₁ h₂ h₃ =>
    have hk : ∀ before n, Kept parent before n ↔ true := by
      intro before n
      exact ⟨fun _ => rfl, fun _ => ⟨fun h => absurd h h₁, fun h => absurd h h₂,
        fun h => absurd h h₃⟩⟩
    rw [keptFrom_eq_filter hk, List.filter_true]

/-- The nodes of a tree that a walk meets. -/
def contents (mainFile : String) (n : Node) : List Content := (trail mainFile n).map Prod.snd

theorem contents_mk (mainFile : String) (c : Content) (children : List Node) :
    contents mainFile (.mk c children) =
      if Shown mainFile c then c :: (keptChildren c children).flatMap (contents mainFile)
      else [] := by
  have hc : ∀ before, (trailChildren mainFile c before children).map Prod.snd =
      (keptFrom c before children).flatMap (contents mainFile) := by
    induction children with
    | nil => intro before; rfl
    | cons n ns ih =>
      intro before
      simp only [trailChildren, keptFrom, List.map_append, ih]
      split_ifs with hk
      · rw [List.flatMap_cons, List.map_map]
        rfl
      · rfl
  rw [contents, trail]
  split_ifs with hs
  · rw [List.map_cons, hc, keptFrom_nil]
  · rfl

theorem isHidden_eq_false_iff {mainFile : String} {c : Content} :
    isHidden mainFile c = false ↔ Shown mainFile c := by
  cases hp : c.location.place? <;> simp [isHidden, Shown, hp]

namespace Cursor

/-- What a cursor has still to meet. The node that comes next is at the end of its stack. -/
def ahead (cursor : Cursor) : List Content :=
  cursor.stack.toList.reverse.flatMap (contents cursor.mainFile)

theorem ahead_of_pop?_none {cursor : Cursor} (h : cursor.pop? = none) : cursor.ahead = [] := by
  have hs : cursor.stack = #[] := by simpa [pop?] using h
  simp [ahead, hs]

theorem ahead_of_pop? {cursor below : Cursor} {n : Node} (h : cursor.pop? = some (n, below)) :
    cursor.ahead = contents below.mainFile n ++ below.ahead := by
  obtain ⟨hm, hs⟩ := stack_of_pop? h
  rw [ahead, ahead, hs, hm, List.reverse_append, List.flatMap_append]
  simp

theorem ahead_pushChildren (cursor : Cursor) (c : Content) (children : List Node) :
    (cursor.pushChildren c children).ahead =
      (keptChildren c children).flatMap (contents cursor.mainFile) ++ cursor.ahead := by
  simp [ahead, pushChildren]

theorem ahead_visit {cursor below : Cursor} {c : Content} {children : List Node}
    (h : cursor.pop? = some (.mk c children, below)) (hs : Shown cursor.mainFile c) :
    cursor.ahead = c :: (below.pushChildren c children).ahead := by
  rw [ahead_of_pop? h, ahead_pushChildren, contents_mk, (stack_of_pop? h).1, if_pos hs,
    List.cons_append]

theorem ahead_skip {cursor below : Cursor} {c : Content} {children : List Node}
    (h : cursor.pop? = some (.mk c children, below)) (hs : ¬ Shown cursor.mainFile c) :
    cursor.ahead = below.ahead := by
  rw [ahead_of_pop? h, contents_mk, (stack_of_pop? h).1, if_neg hs, List.nil_append]

/-- One step of a cursor: it yields the first occurrence of what is ahead and leaves the others. -/
theorem next_names (cursor : Cursor) :
    names cursor.ahead = match cursor.next with
      | .error fault => .error fault
      | .ok none => .ok []
      | .ok (some (o, rest)) => (names rest.ahead).map (o :: ·) := by
  fun_induction next cursor with
  -- A hidden node is dropped with all below it; any other one leaves its kept children behind.
  | case1 cursor hPop => rw [ahead_of_pop?_none hPop]; rfl
  | case2 cursor c children below hPop hh ih =>
    rw [ahead_skip hPop (by simp [← isHidden_eq_false_iff, hh]), ih]
  | case3 cursor c children below hPop hh fault hc =>
    rw [ahead_visit hPop (isHidden_eq_false_iff.1 (by simpa using hh)), names, hc]
    rfl
  | case4 cursor c children below hPop hh o hc =>
    rw [ahead_visit hPop (isHidden_eq_false_iff.1 (by simpa using hh)), names, hc]
    rfl
  | case5 cursor c children below hPop hh hc ih =>
    rw [ahead_visit hPop (isHidden_eq_false_iff.1 (by simpa using hh)), names, hc, ← ih]
    exact bind_pure (m := Except Spelling.Fault) _

theorem collect_eq_names (cursor : Cursor) : cursor.collect = names cursor.ahead := by
  fun_induction collect cursor with
  | case1 cursor fault hNext => rw [next_names, hNext]
  | case2 cursor hNext => rw [next_names, hNext]
  | case3 cursor o rest hNext ih => rw [next_names cursor, hNext, ih]

end Cursor

theorem ofTree_eq_names (mainFile : String) (root : Node) :
    ofTree mainFile root = names (contents mainFile root) := by
  rw [ofTree, Cursor.collect_eq_names]
  simp [Cursor.ahead, Cursor.start]

end CSymbols.Occurrence
