import CSymbols.Binding

/-! The occurrences of names in a syntax tree, in document order.

A subtree is passed over if its root was made up by the compiler or stands in another file than the
main one. In a template only the pattern is looked at, never its instantiations. -/
namespace CSymbols

inductive Role where
  /-- The occurrence introduces the name. -/
  | declaration
  /-- The occurrence uses a name declared elsewhere. -/
  | reference
  deriving DecidableEq, Repr

structure Occurrence where
  name : String
  role : Role
  /-- `none` if the name could not be resolved; references never are. -/
  binding : Option Binding
  /-- The line of the name, counted from one. -/
  line : Option Nat
  deriving DecidableEq, Repr

namespace Occurrence

/-- The line of a location in 32 bits; zero is no line. -/
def lineOf (location : Tree.Location) : Option Nat :=
  (location.place?.map fun p => p.line % 4294967296).filter (0 < ·)

/-- A name that is not empty. -/
def nonEmpty (name : Option String) : Option String := name.filter (· != "")

/-- The name of a reference: that of its target if it has one, else its own. -/
def referredName (r : Tree.Reference) : Option String := nonEmpty (r.target.or r.name)

/-- The occurrence that a node itself is. -/
def ofContent (c : Tree.Content) : Except Spelling.Fault (Option Occurrence) :=
  match c with
  | .declaration d =>
    match nonEmpty d.name with
    | none => .ok none
    | some name => (Binding.resolve d).map fun b =>
      some ⟨name, .declaration, b, lineOf d.location⟩
  | .reference r =>
    .ok ((referredName r).map fun name => ⟨name, .reference, none, lineOf r.location⟩)
  | .other _ => .ok none

/-- Whether a node and all below it is passed over. -/
def isHidden (mainFile : String) (c : Tree.Content) : Bool :=
  c.isImplicit || c.location.place?.any (·.file != mainFile)

def isFunction (n : Tree.Node) : Bool :=
  n.content.declarationKind?.any Tree.DeclarationKind.isFunction

def hasKind (kind : Tree.DeclarationKind) (n : Tree.Node) : Bool :=
  n.content.declarationKind? == some kind

/-- Drops every function behind the first. -/
def keepFirstFunction : List Tree.Node → List Tree.Node
  | [] => []
  | n :: ns =>
    if isFunction n then n :: ns.filter (!isFunction ·) else n :: keepFirstFunction ns

/-- The children that are looked at. -/
def keptChildren (c : Tree.Content) (children : List Tree.Node) : List Tree.Node :=
  match c.declarationKind? with
  | some .functionTemplate => keepFirstFunction children
  | some .classTemplate => children.filter (!hasKind .classTemplateSpecialization ·)
  | some .variableTemplate => children.filter (!hasKind .variableTemplateSpecialization ·)
  | _ => children

mutual

/-- The number of nodes of a tree. -/
def weight : Tree.Node → Nat
  | .mk _ children => 1 + totalWeight children

def totalWeight : List Tree.Node → Nat
  | [] => 0
  | n :: ns => weight n + totalWeight ns

end

theorem totalWeight_append (ms ns : List Tree.Node) :
    totalWeight (ms ++ ns) = totalWeight ms + totalWeight ns := by
  induction ms with
  | nil => simp [totalWeight]
  | cons m ms ih => simp [totalWeight, ih, Nat.add_assoc]

theorem totalWeight_reverse (ns : List Tree.Node) : totalWeight ns.reverse = totalWeight ns := by
  induction ns with
  | nil => rfl
  | cons n ns ih =>
    simp only [List.reverse_cons, totalWeight_append, totalWeight, ih]
    omega

theorem totalWeight_le_of_sublist {ms ns : List Tree.Node} (h : ms.Sublist ns) :
    totalWeight ms ≤ totalWeight ns := by
  induction h with
  | slnil => exact Nat.le_refl _
  | cons n _ ih => simp only [totalWeight]; omega
  | cons_cons n _ ih => simp only [totalWeight]; omega

theorem keepFirstFunction_sublist (ns : List Tree.Node) : (keepFirstFunction ns).Sublist ns := by
  induction ns with
  | nil => exact .slnil
  | cons n ns ih =>
    unfold keepFirstFunction
    split
    · exact .cons_cons n List.filter_sublist
    · exact .cons_cons n ih

theorem keptChildren_sublist (c : Tree.Content) (ns : List Tree.Node) :
    (keptChildren c ns).Sublist ns := by
  unfold keptChildren
  split
  · exact keepFirstFunction_sublist ns
  · exact List.filter_sublist
  · exact List.filter_sublist
  · exact List.Sublist.refl ns

/-- A walk through a tree that has come so far. -/
structure Cursor where
  mainFile : String
  /-- The nodes that are still to be visited. The one that comes next is the last. -/
  stack : Array Tree.Node

namespace Cursor

/-- A walk that has not begun. -/
def start (mainFile : String) (root : Tree.Node) : Cursor := ⟨mainFile, #[root]⟩

/-- The number of nodes at and below the nodes of the stack. -/
def weight (cursor : Cursor) : Nat := totalWeight cursor.stack.toList

/-- Takes the node that comes next off the stack. -/
def pop? (cursor : Cursor) : Option (Tree.Node × Cursor) :=
  cursor.stack.back?.map fun n => (n, { cursor with stack := cursor.stack.pop })

/-- Puts the children that are looked at on the stack, in reverse order, so that the first one
comes next. -/
def pushChildren (cursor : Cursor) (c : Tree.Content) (children : List Tree.Node) : Cursor :=
  { cursor with stack := cursor.stack ++ (keptChildren c children).reverse }

theorem stack_of_pop? {cursor below : Cursor} {n : Tree.Node}
    (h : cursor.pop? = some (n, below)) :
    below.mainFile = cursor.mainFile ∧ cursor.stack.toList = below.stack.toList ++ [n] := by
  obtain ⟨m, hm, he⟩ := Option.map_eq_some_iff.1 h
  obtain ⟨rfl, rfl⟩ := Prod.mk.inj he
  refine ⟨rfl, ?_⟩
  rw [← Array.getLast?_toList] at hm
  obtain ⟨ms, hms⟩ := List.getLast?_eq_some_iff.1 hm
  simp [hms]

theorem weight_of_pop? {cursor below : Cursor} {c : Tree.Content} {ns : List Tree.Node}
    (h : cursor.pop? = some (.mk c ns, below)) :
    cursor.weight = below.weight + 1 + totalWeight ns := by
  unfold weight
  rw [(stack_of_pop? h).2, totalWeight_append]
  simp only [totalWeight, Occurrence.weight]
  omega

theorem weight_pushChildren_le (cursor : Cursor) (c : Tree.Content) (ns : List Tree.Node) :
    (cursor.pushChildren c ns).weight ≤ cursor.weight + totalWeight ns := by
  have h := totalWeight_le_of_sublist (keptChildren_sublist c ns)
  simp only [weight, pushChildren, Array.toList_appendList, totalWeight_append,
    totalWeight_reverse]
  omega

/-- Goes on to the next occurrence; `none` if there is none left. -/
def next (cursor : Cursor) : Except Spelling.Fault (Option (Occurrence × Cursor)) :=
  match _hPop : cursor.pop? with
  | none => .ok none
  | some (.mk content children, below) =>
    if isHidden cursor.mainFile content then below.next
    else
      match ofContent content with
      | .error fault => .error fault
      | .ok (some o) => .ok (some (o, below.pushChildren content children))
      | .ok none => (below.pushChildren content children).next
  termination_by cursor.weight
  decreasing_by
    · have := weight_of_pop? _hPop
      omega
    · have h₁ := weight_of_pop? _hPop
      have h₂ := weight_pushChildren_le below content children
      omega

theorem weight_of_next {cursor rest : Cursor} {o : Occurrence}
    (h : cursor.next = .ok (some (o, rest))) : rest.weight < cursor.weight := by
  fun_induction next cursor with
  | case1 => cases h
  | case2 cursor content children below hPop _ ih =>
    have := ih h
    have := weight_of_pop? hPop
    omega
  | case3 => cases h
  | case4 cursor content children below hPop _ o' =>
    cases h
    have h₁ := weight_of_pop? hPop
    have h₂ := weight_pushChildren_le below content children
    omega
  | case5 cursor content children below hPop _ _ ih =>
    have := ih h
    have h₁ := weight_of_pop? hPop
    have h₂ := weight_pushChildren_le below content children
    omega

/-- All the occurrences that are left. -/
def collect (cursor : Cursor) : Except Spelling.Fault (List Occurrence) :=
  match _hNext : cursor.next with
  | .error fault => .error fault
  | .ok none => .ok []
  | .ok (some (o, rest)) => rest.collect.map (o :: ·)
  termination_by cursor.weight
  decreasing_by exact weight_of_next _hNext

end Cursor

/-- The occurrences in a tree. -/
def ofTree (mainFile : String) (root : Tree.Node) : Except Spelling.Fault (List Occurrence) :=
  (Cursor.start mainFile root).collect

end Occurrence
end CSymbols
