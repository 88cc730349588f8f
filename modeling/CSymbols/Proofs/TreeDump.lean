import Mathlib.Data.Fintype.OfMap
import CSymbols.Proofs.JsonText
import CSymbols.Tree.Document

/-! Documents as compilers write them: a place leaves out its file or its line where they are those
of the place before it in the text. -/
namespace CSymbols

namespace Json

mutual

/-- How many arrays and objects are open at once where a value is deepest. -/
def depth : Json → Nat
  | .array items => itemsDepth items + 1
  | .object members => membersDepth members + 1
  | _ => 0

def itemsDepth : List Json → Nat
  | [] => 0
  | v :: vs => max v.depth (itemsDepth vs)

def membersDepth : List (Option String × Json) → Nat
  | [] => 0
  | (_, v) :: ms => max v.depth (membersDepth ms)

end

/-- The members of a record. -/
def keyed (members : List (String × Json)) : List (Option String × Json) :=
  members.map fun m => (some m.1, m.2)

/-- A member that is there only if there is something to say. -/
def entry {α : Type} (key : String) (f : α → Json) (o : Option α) : List (String × Json) :=
  (o.map fun a => (key, f a)).toList

/-- The number value of a 64-bit number. -/
def word (n : UInt64) : Json := nat n.toNat

theorem membersDepth_append (ms ns : List (Option String × Json)) :
    membersDepth (ms ++ ns) = max (membersDepth ms) (membersDepth ns) := by
  induction ms with
  | nil => simp [membersDepth]
  | cons m ms ih =>
    obtain ⟨key, v⟩ := m
    rw [List.cons_append, membersDepth, membersDepth, ih, Nat.max_assoc]

theorem keyed_cons (key : String) (v : Json) (ms : List (String × Json)) :
    keyed ((key, v) :: ms) = (some key, v) :: keyed ms := rfl

theorem keyed_append (ms ns : List (String × Json)) : keyed (ms ++ ns) = keyed ms ++ keyed ns :=
  List.map_append

theorem depth_record (ms : List (String × Json)) :
    (record ms).depth = membersDepth (keyed ms) + 1 := by
  rw [record, depth]
  rfl

theorem membersDepth_entry {α : Type} (key : String) (f : α → Json) (o : Option α) :
    membersDepth (keyed (entry key f o)) = o.elim 0 fun a => (f a).depth := by
  cases o <;> simp [keyed, entry, membersDepth]

theorem membersDepth_entry_eq_zero {α : Type} (key : String) {f : α → Json}
    (h : ∀ a, (f a).depth = 0) (o : Option α) : membersDepth (keyed (entry key f o)) = 0 := by
  rw [membersDepth_entry]
  cases o with
  | none => rfl
  | some a => exact h a

@[simp] theorem depth_text (t : String) : (text t).depth = 0 := by simp [text, depth]

@[simp] theorem depth_word (n : UInt64) : (word n).depth = 0 := by simp [word, nat, depth]

@[simp] theorem depth_bool (b : Bool) : (bool b).depth = 0 := by simp [depth]

theorem proper_word (n : UInt64) : Proper (word n) := proper_nat _

theorem properMembers_entry {α : Type} (key : String) {f : α → Json} (h : ∀ a, Proper (f a))
    (o : Option α) : ProperMembers (keyed (entry key f o)) := by
  cases o with
  | none => exact trivial
  | some a => exact ⟨h a, trivial⟩

theorem proper_record_singleton (key : String) {v : Json} (h : Proper v) :
    Proper (record [(key, v)]) := ⟨h, trivial⟩

end Json

namespace Tree

/-- A place with all that a document can say of it. -/
structure Spot where
  offset : UInt64
  file : String
  line : UInt64
  presumedFile : Option String
  presumedLine : Option UInt64
  column : UInt64
  length : UInt64
  /-- The file that includes the one of the place. -/
  includedFrom : Option String
  isMacroArgument : Option Bool

/-- A location as a document gives it. -/
inductive Position where
  | absent
  | plain (spot : Spot)
  | expanded (spelling expansion : Spot)

structure Extent where
  start : Position
  stop : Position

structure TypeText where
  type : Option String
  desugared : Option String

/-- The declaration that a reference means. -/
structure Target where
  id : UInt64
  kind : String
  name : Option String
  type : Option String

/-- What a node can say apart from its kind and its children. -/
structure Fields where
  location : Option Position := none
  range : Option Extent := none
  isImplicit : Option Bool := none
  name : Option String := none
  type : Option TypeText := none
  storageClass : Option String := none
  isInline : Option Bool := none
  target : Option Target := none

/-! ### The words for kinds -/

instance : Fintype DeclarationKind :=
  .ofList [.function, .method, .constructor, .destructor, .conversion, .object, .field, .parameter,
    .functionTemplate, .classTemplate, .variableTemplate, .classTemplateSpecialization,
    .variableTemplateSpecialization] (by rintro ⟨⟩ <;> decide)

instance : Fintype ReferenceKind := .ofList [.name, .member] (by rintro ⟨⟩ <;> decide)

/-- The word that a document has for a declaration. -/
def DeclarationKind.word : DeclarationKind → String
  | function => "FunctionDecl"
  | method => "CXXMethodDecl"
  | constructor => "CXXConstructorDecl"
  | destructor => "CXXDestructorDecl"
  | conversion => "CXXConversionDecl"
  | object => "VarDecl"
  | field => "FieldDecl"
  | parameter => "ParmVarDecl"
  | functionTemplate => "FunctionTemplateDecl"
  | classTemplate => "ClassTemplateDecl"
  | variableTemplate => "VarTemplateDecl"
  | classTemplateSpecialization => "ClassTemplateSpecializationDecl"
  | variableTemplateSpecialization => "VarTemplateSpecializationDecl"

/-- The word that a document has for a reference. -/
def ReferenceKind.word : ReferenceKind → String
  | name => "DeclRefExpr"
  | member => "MemberExpr"

/-- A word for a node that neither declares nor refers: any that is not taken. -/
def Untaken (word : String) : Prop :=
  (∀ k : DeclarationKind, k.word ≠ word) ∧ ∀ k : ReferenceKind, k.word ≠ word

instance (word : String) : Decidable (Untaken word) := inferInstanceAs (Decidable (_ ∧ _))

/-- What a node is, with the word for it. -/
inductive Label where
  | declaration (kind : DeclarationKind)
  | reference (kind : ReferenceKind)
  | other (word : String) (untaken : Untaken word)

namespace Label

def kind : Label → Kind
  | declaration k => .declaration k
  | reference k => .reference k
  | other _ _ => .other

def word : Label → String
  | declaration k => k.word
  | reference k => k.word
  | other w _ => w

end Label

/-- Every kind is read back from its word, and a word that is not taken is of no interest. -/
theorem Kind.ofName_word (l : Label) : Kind.ofName l.word = l.kind := by
  cases l with
  | declaration k => cases k <;> rfl
  | reference k => cases k <;> rfl
  | other w hw =>
    have htaken : ∀ n ∈ kindNames, ¬ Untaken n.1 := by decide
    have hnone : kindNames.lookup w = none := by
      rw [List.lookup_eq_none_iff]
      intro n hn
      have hne : w ≠ n.1 := fun he => htaken n hn (he ▸ hw)
      simpa using hne
    rw [Label.word, Kind.ofName, hnone]
    rfl

/-- A tree as a compiler has it, with places that are whole. -/
inductive Dump where
  | mk (id : UInt64) (label : Label) (fields : Fields) (inner : List Dump)

/-! ### The tree that a dump means -/

def Spot.place (s : Spot) : Place :=
  ⟨s.offset.toNat, s.file, s.line.toNat, s.column.toNat, s.length.toNat⟩

def Position.location : Position → Location
  | absent => .absent
  | plain s => .plain s.place
  | expanded s e => .expanded s.place e.place

def Extent.range (e : Extent) : Range := ⟨e.start.location, e.stop.location⟩

/-- What the fields of a node say, as far as they mean something for its kind. -/
def Fields.content (f : Fields) (kind : Kind) : Content :=
  let location := (f.location.map Position.location).getD .absent
  let range := f.range.map Extent.range
  let isImplicit := f.isImplicit.getD false
  match kind with
  | .declaration k =>
    .declaration ⟨k, f.name, location, range, isImplicit, f.type.bind TypeText.type,
      f.type.bind TypeText.desugared, f.storageClass, f.isInline.getD false⟩
  | .reference k =>
    .reference ⟨k, f.target.bind Target.name, f.name, location, range, isImplicit⟩
  | .other => .other ⟨location, range, isImplicit⟩

mutual

def Dump.node : Dump → Node
  | .mk _ label fields inner => .mk (fields.content label.kind) (Dump.nodes inner)

def Dump.nodes : List Dump → List Node
  | [] => []
  | d :: ds => d.node :: Dump.nodes ds

end

/-! ### The document of a dump -/

/-- Something that is left out under a condition. -/
def leftOutIf {α : Type} (p : Prop) [Decidable p] (a : α) : Option α := if p then none else some a

/-- What is written of a place behind its offset. -/
def Spot.details (c : Carried) (s : Spot) : List (String × Json) :=
  Json.entry "file" .text (leftOutIf (s.file = c.file) s.file) ++
  Json.entry "line" .word (leftOutIf (s.line.toNat = c.line) s.line) ++
  Json.entry "presumedFile" .text s.presumedFile ++
  Json.entry "presumedLine" .word s.presumedLine ++
  [("col", .word s.column), ("tokLen", .word s.length)] ++
  Json.entry "includedFrom" (fun file => .record [("file", .text file)]) s.includedFrom ++
  Json.entry "isMacroArgExpansion" .bool s.isMacroArgument

def Spot.json (c : Carried) (s : Spot) : Json :=
  .record (("offset", .word s.offset) :: s.details c)

/-- The file and the line that the place behind this one is compared with. -/
def Spot.last (s : Spot) : Carried := ⟨s.file, s.line.toNat⟩

def Position.json (c : Carried) : Position → Json
  | absent => .object []
  | plain s => s.json c
  | expanded s e => .record [("spellingLoc", s.json c), ("expansionLoc", e.json s.last)]

def Position.last (c : Carried) : Position → Carried
  | absent => c
  | plain s => s.last
  | expanded _ e => e.last

def Extent.json (c : Carried) (e : Extent) : Json :=
  .record [("begin", e.start.json c), ("end", e.stop.json (e.start.last c))]

def Extent.last (c : Carried) (e : Extent) : Carried := e.stop.last (e.start.last c)

def TypeText.json (t : TypeText) : Json :=
  .record (Json.entry "desugaredQualType" .text t.desugared ++ Json.entry "qualType" .text t.type)

/-- The identity of a node: a number in hexadecimal. -/
def identity (id : UInt64) : Json :=
  .text (String.ofList ('0' :: 'x' :: Text.hexadecimal id.toNat))

def Target.json (t : Target) : Json :=
  .record (("id", identity t.id) :: ("kind", .text t.kind) :: (Json.entry "name" .text t.name ++
    Json.entry "type" (fun type => .record [("qualType", .text type)]) t.type))

/-- A field that is there. -/
inductive Field where
  | location (p : Position)
  | range (e : Extent)
  | isImplicit (b : Bool)
  | name (s : String)
  | type (t : TypeText)
  | storageClass (s : String)
  | isInline (b : Bool)
  | target (t : Target)

namespace Field

def key : Field → String
  | location _ => "loc"
  | range _ => "range"
  | isImplicit _ => "isImplicit"
  | name _ => "name"
  | type _ => "type"
  | storageClass _ => "storageClass"
  | isInline _ => "inline"
  | target _ => "referencedDecl"

def json (c : Carried) : Field → Json
  | location p => p.json c
  | range e => e.json c
  | isImplicit b | isInline b => .bool b
  | name s | storageClass s => .text s
  | type t => t.json
  | target t => t.json

def last (c : Carried) : Field → Carried
  | location p => p.last c
  | range e => e.last c
  | _ => c

/-- The members of fields in a row. -/
def members (c : Carried) : List Field → List (Option String × Json)
  | [] => []
  | f :: fs => (some f.key, f.json c) :: members (f.last c) fs

end Field

/-- The fields that are there, in the order of the text. -/
def Fields.toList (f : Fields) : List Field :=
  (f.location.map .location).toList ++ (f.range.map .range).toList ++
  (f.isImplicit.map .isImplicit).toList ++ (f.name.map .name).toList ++
  (f.type.map .type).toList ++ (f.storageClass.map .storageClass).toList ++
  (f.isInline.map .isInline).toList ++ (f.target.map .target).toList

mutual

def Dump.last (c : Carried) : Dump → Carried
  | .mk _ _ fields inner => Dump.lastOf (fields.toList.foldl Field.last c) inner

def Dump.lastOf (c : Carried) : List Dump → Carried
  | [] => c
  | d :: ds => Dump.lastOf (d.last c) ds

end

/-- The member that holds the children; without any it is left out. -/
def innerMember : List Json → List (Option String × Json)
  | [] => []
  | v :: vs => [(some "inner", .array (v :: vs))]

mutual

/-- The document of a dump, where the last file and line before it are these. -/
def Dump.json (c : Carried) : Dump → Json
  | .mk id label fields inner =>
    .object ((some "id", identity id) :: (some "kind", .text label.word) ::
      (Field.members c fields.toList ++
        innerMember (Dump.items (fields.toList.foldl Field.last c) inner)))

def Dump.items (c : Carried) : List Dump → List Json
  | [] => []
  | d :: ds => d.json c :: Dump.items (d.last c) ds

end

/-- The whole document of a dump. -/
def Dump.document (d : Dump) : Json := d.json {}

/-- A text spells the document of a dump, with whatever blanks and escapes. -/
def Dump.SpelledBy (d : Dump) (text : String) : Prop :=
  Json.tokens text.toList = some d.document.spelling

open Json

theorem Spot.proper (s : Spot) (c : Carried) : Proper (s.json c) := by
  have hincluded (file : String) := proper_record_singleton "file" (proper_text file)
  have hextent : ProperMembers (keyed [("col", .word s.column), ("tokLen", .word s.length)]) :=
    ⟨proper_word _, proper_word _, trivial⟩
  have hdetails : ProperMembers (keyed (s.details c)) := by
    unfold Spot.details
    simp only [keyed_append, properMembers_append, properMembers_entry _ proper_text,
      properMembers_entry _ proper_word, properMembers_entry _ proper_bool,
      properMembers_entry _ hincluded, hextent, and_self]
  exact ⟨proper_word _, hdetails⟩

theorem Position.proper (p : Position) (c : Carried) : Proper (p.json c) := by
  cases p with
  | absent => exact trivial
  | plain s => exact s.proper c
  | expanded s e => exact ⟨s.proper c, e.proper _, trivial⟩

theorem Field.proper (f : Field) (c : Carried) : Proper (f.json c) := by
  cases f with
  | location p => exact p.proper c
  | range e => exact ⟨e.start.proper c, e.stop.proper _, trivial⟩
  | isImplicit b => exact proper_bool b
  | name s => exact proper_text s
  | type t =>
    change ProperMembers (keyed _)
    simp only [keyed_append, properMembers_append, properMembers_entry _ proper_text, and_self]
  | storageClass s => exact proper_text s
  | isInline b => exact proper_bool b
  | target t =>
    have htype (type : String) := proper_record_singleton "qualType" (proper_text type)
    have hrest : ProperMembers (keyed (entry "name" text t.name ++
        entry "type" (fun type => record [("qualType", text type)]) t.type)) := by
      rw [keyed_append, properMembers_append]
      exact ⟨properMembers_entry "name" proper_text _, properMembers_entry "type" htype _⟩
    exact ⟨proper_text _, proper_text _, hrest⟩

theorem Field.properMembers (fs : List Field) (c : Carried) :
    ProperMembers (Field.members c fs) := by
  induction fs generalizing c with
  | nil => exact trivial
  | cons f fs ih => exact ⟨f.proper c, ih _⟩

theorem properMembers_innerMember {vs : List Json} (h : ProperItems vs) :
    ProperMembers (innerMember vs) := by
  cases vs with
  | nil => exact trivial
  | cons v vs => exact ⟨h, trivial⟩

mutual

theorem Dump.proper (d : Dump) (c : Carried) : Proper (d.json c) := by
  match d with
  | .mk id label fields inner =>
    exact ⟨proper_text _, proper_text _, properMembers_append.2
      ⟨Field.properMembers _ _, properMembers_innerMember (Dump.properItems inner _)⟩⟩

theorem Dump.properItems (ds : List Dump) (c : Carried) : ProperItems (Dump.items c ds) := by
  match ds with
  | [] => exact trivial
  | d :: ds => exact ⟨Dump.proper d c, Dump.properItems ds _⟩

end

theorem Dump.spelledBy_compact (d : Dump) : d.SpelledBy (compact d.document) :=
  tokens_compact (d.proper {})

/-! ### What of a document is looked at -/

/-- The fields that mean something for a kind. Of the declaration that a reference means only the
name is looked at. -/
def Fields.lookedAt (f : Fields) : Kind → Fields
  | .declaration _ => { f with target := none }
  | .reference _ =>
    { f with
      type := none
      storageClass := none
      isInline := none
      target := f.target.map fun t => { t with type := none } }
  | .other => { location := f.location, range := f.range, isImplicit := f.isImplicit }

mutual

/-- The dump without what is not looked at. -/
def Dump.lookedAt : Dump → Dump
  | .mk id label fields inner =>
    .mk id label (fields.lookedAt label.kind) (Dump.allLookedAt inner)

def Dump.allLookedAt : List Dump → List Dump
  | [] => []
  | d :: ds => d.lookedAt :: Dump.allLookedAt ds

end

end Tree
end CSymbols
