import CSymbols.Proofs.TreeDump
import CSymbols.SourceUnit

/-! A tree is read back from the document that was written for it, if that is not too deep: every
place gets back the file and the line that it left out. -/
namespace CSymbols.Tree

open Json

/-- A reading gives just this, and it does so if there is room for so many levels. -/
def ReadsAs {α : Type} (read : Nat → Reading α) (depth : Nat) (c : Carried) (a : α)
    (c' : Carried) : Prop :=
  ∀ room, (read room).run c = if depth ≤ room then some (a, c') else none

namespace ReadsAs

variable {α β : Type} {r s : Nat → Reading α} {m n : Nat} {c c' c'' : Carried} {a : α} {b : β}

theorem pure (a : α) (c : Carried) : ReadsAs (fun _ => Pure.pure a) 0 c a c := by
  intro room
  simp

theorem bind {f : α → Nat → Reading β} (h : ReadsAs r m c a c') (hf : ReadsAs (f a) n c' b c'') :
    ReadsAs (fun room => r room >>= fun x => f x room) (max m n) c b c'' := by
  intro room
  rw [StateT.run_bind, h room]
  simp only [Nat.max_le]
  by_cases hm : m ≤ room
  · simp [hm, hf room]
  · simp [hm]

theorem map (f : α → β) (h : ReadsAs r m c a c') :
    ReadsAs (fun room => f <$> r room) m c (f a) c' := by
  intro room
  rw [StateT.run_map, h room]
  split_ifs <;> rfl

/-- One more level around what is read. -/
theorem inside (h : ReadsAs r m c a c') (hzero : s 0 = failure)
    (hsucc : ∀ room, s (room + 1) = r room) : ReadsAs s (m + 1) c a c' := by
  intro room
  cases room with
  | zero =>
    rw [hzero]
    rfl
  | succ room =>
    rw [hsucc, h room]
    simp

theorem congr (h : ReadsAs r m c a c') (he : ∀ room, s room = r room) : ReadsAs s m c a c' := by
  intro room
  rw [he, h room]

theorem lift {o : Nat → Option α} (h : ∀ room, o room = if m ≤ room then some a else none) :
    ReadsAs (fun room => (o room : Reading α)) m c a c := by
  intro room
  simp only [h]
  split_ifs <;> rfl

end ReadsAs

theorem word?_word (n : UInt64) : word? (.word n) = some n.toNat := by
  have h : n.toNat < 18446744073709551616 := n.toNat_lt
  simp [word?, Json.word, Json.nat, Json.nat?, Text.nat?_natText, h]

/-- What is left out where it is the same as before is taken over from there. -/
theorem getD_leftOutIf {α β : Type} [DecidableEq β] (f : α → β) (a : α) (b : β) :
    ((leftOutIf (f a = b) a).map f).getD b = f a := by
  unfold leftOutIf
  split_ifs with h
  · exact h.symm
  · rfl

theorem Spot.draft (s : Spot) (c : Carried) (room : Nat) :
    PlaceDraft.ofMembers? room (keyed (s.details c)) =
      if s.includedFrom.elim 0 (fun _ => 1) ≤ room then
        some ⟨leftOutIf (s.file = c.file) s.file,
          (leftOutIf (s.line.toNat = c.line) s.line).map UInt64.toNat, some s.column.toNat,
          some s.length.toNat⟩
      else none := by
  have hfile : ∀ d o, (keyed (entry "file" .text o)).foldlM (PlaceDraft.add room) d =
      some { d with file := o.or d.file } := by
    rintro d (_ | t) <;> rfl
  have hline : ∀ d o, (keyed (entry "line" .word o)).foldlM (PlaceDraft.add room) d =
      some { d with line := (o.map UInt64.toNat).or d.line } := by
    rintro d (_ | n)
    · rfl
    · simp [keyed, entry, PlaceDraft.add, word?_word]
  have hpresumedFile : ∀ d o, (keyed (entry "presumedFile" .text o)).foldlM
      (PlaceDraft.add room) d = some d := by
    rintro d (_ | t) <;> rfl
  have hpresumedLine : ∀ d o, (keyed (entry "presumedLine" .word o)).foldlM
      (PlaceDraft.add room) d = some d := by
    rintro d (_ | n)
    · rfl
    · simp [keyed, entry, PlaceDraft.add, word?_word]
  have hextent : ∀ d, (keyed [("col", .word s.column), ("tokLen", .word s.length)]).foldlM
      (PlaceDraft.add room) d =
      some { d with column := some s.column.toNat, length := some s.length.toNat } := by
    intro d
    simp [keyed, PlaceDraft.add, word?_word]
  have hincluded : ∀ d o, (keyed (entry "includedFrom"
      (fun file => .record [("file", .text file)]) o)).foldlM (PlaceDraft.add room) d =
      if o.elim 0 (fun _ => 1) ≤ room then some d else none := by
    rintro d (_ | t)
    · rfl
    · simp [keyed, entry, PlaceDraft.add, isInclusion, Json.record, Json.text, Json.text?,
        Nat.one_le_iff_ne_zero, Nat.pos_iff_ne_zero]
  have hmacro : ∀ d o, (keyed (entry "isMacroArgExpansion" .bool o)).foldlM
      (PlaceDraft.add room) d = some d := by
    rintro d (_ | b) <;> rfl
  unfold PlaceDraft.ofMembers? Spot.details
  simp only [keyed_append, List.foldlM_append, hfile, hline, hpresumedFile, hpresumedLine,
    hextent, hincluded, hmacro, Option.bind_eq_bind, Option.bind_some]
  split_ifs
  · simp
  · rfl

theorem Spot.depth_json (s : Spot) (c : Carried) :
    (s.json c).depth = s.includedFrom.elim 0 (fun _ => 1) + 1 := by
  have hincluded : membersDepth (keyed (entry "includedFrom"
      (fun file => record [("file", text file)]) s.includedFrom)) =
      s.includedFrom.elim 0 (fun _ => 1) := by
    rw [membersDepth_entry]
    cases s.includedFrom with
    | none => rfl
    | some t => simp [depth_record, keyed, membersDepth]
  have hextent : membersDepth (keyed [("col", word s.column), ("tokLen", word s.length)]) = 0 := by
    simp [keyed, membersDepth]
  have hdetails : membersDepth (keyed (s.details c)) = s.includedFrom.elim 0 (fun _ => 1) := by
    unfold Spot.details
    simp only [keyed_append, membersDepth_append, hincluded, hextent,
      membersDepth_entry_eq_zero _ depth_text, membersDepth_entry_eq_zero _ depth_word,
      membersDepth_entry_eq_zero _ depth_bool]
    simp
  rw [Spot.json, depth_record, keyed_cons, membersDepth, hdetails, depth_word, Nat.zero_max]

theorem Spot.reads (s : Spot) (c : Carried) :
    ReadsAs (fun room => readPlace room (s.json c)) (s.json c).depth c s.place s.last := by
  intro room
  rw [s.depth_json c]
  cases room with
  | zero => rfl
  | succ room =>
    have hfile : (leftOutIf (s.file = c.file) s.file).getD c.file = s.file := by
      simpa using getD_leftOutIf id s.file c.file
    have hline := getD_leftOutIf UInt64.toNat s.line c.line
    have hdraft := s.draft c room
    change (readPlace (room + 1)
      (.object ((some "offset", word s.offset) :: keyed (s.details c)))).run c = _
    rw [readPlace]
    by_cases h : s.includedFrom.elim 0 (fun _ => 1) ≤ room
    · rw [if_pos h] at hdraft
      rw [if_pos (Nat.succ_le_succ h)]
      simp [word?_word, hdraft, hfile, hline, Spot.place, Spot.last]
    · rw [if_neg h] at hdraft
      rw [if_neg (by omega)]
      simp [word?_word, hdraft]

theorem Position.reads (p : Position) (c : Carried) :
    ReadsAs (fun room => readLocation room (p.json c)) (p.json c).depth c p.location
      (p.last c) := by
  cases p with
  | absent => exact (ReadsAs.pure _ _).inside rfl fun room => rfl
  | plain s =>
    refine ((s.reads c).map Location.plain).congr fun room => ?_
    rfl
  | expanded s e =>
    have h := ((s.reads c).bind (f := fun spelling room =>
      Location.expanded spelling <$> readPlace room (e.json s.last)) ((e.reads s.last).map _))
    have hd : (Position.json c (.expanded s e)).depth =
        max (s.json c).depth (e.json s.last).depth + 1 := by
      simp [Position.json, depth_record, keyed, membersDepth]
    rw [hd]
    exact h.inside rfl fun room => rfl

theorem Extent.reads (e : Extent) (c : Carried) :
    ReadsAs (fun room => readRange room (e.json c)) (e.json c).depth c e.range (e.last c) := by
  have h := (e.start.reads c).bind (f := fun start room =>
    (fun stop => Range.mk start stop) <$> readLocation room (e.stop.json (e.start.last c)))
    ((e.stop.reads (e.start.last c)).map _)
  have hd : (e.json c).depth =
      max (e.start.json c).depth (e.stop.json (e.start.last c)).depth + 1 := by
    simp [Extent.json, depth_record, keyed, membersDepth]
  rw [hd]
  exact h.inside rfl fun room => rfl

theorem TypeText.types?_json (t : TypeText) (room : Nat) :
    types? room t.json = if 1 ≤ room then some (t.type, t.desugared) else none := by
  obtain ⟨type, desugared⟩ := t
  cases room <;> cases type <;> cases desugared <;> rfl

theorem Target.target?_json (t : Target) (room : Nat) :
    target? room t.json = if 1 ≤ room then some t.name else none := by
  obtain ⟨id, kind, name, type⟩ := t
  cases room <;> cases name <;> cases type <;> rfl

theorem TypeText.depth_json (t : TypeText) : t.json.depth = 1 := by
  simp [TypeText.json, depth_record, keyed_append, membersDepth_append,
    membersDepth_entry_eq_zero _ depth_text]

theorem depth_identity (id : UInt64) : (identity id).depth = 0 := depth_text _

theorem Target.depth_json_untyped (t : Target) :
    ({ t with type := none } : Target).json.depth = 1 := by
  rw [Target.json, depth_record, keyed_cons, keyed_cons, keyed_append, membersDepth, membersDepth,
    membersDepth_append, depth_identity, depth_text, membersDepth_entry_eq_zero _ depth_text]
  rfl

theorem readMembers_cons {key : String} (hk : key ≠ "inner") (room : Nat) (kind : Kind) (d : Draft)
    (v : Json) (ms : List (Option String × Json)) :
    readMembers room (.body kind d) ((some key, v) :: ms) =
      (Phase.body kind d).add room key v >>= fun p => readMembers room p ms := by
  rw [readMembers, Phase.isChildren, if_neg (by simpa using hk)]

theorem readMembers_append (room : Nat) (p : Phase) (ms ns : List (Option String × Json)) :
    readMembers room p (ms ++ ns) = readMembers room p ms >>= fun p => readMembers room p ns := by
  induction ms generalizing p with
  | nil => simp [readMembers]
  | cons m ms ih =>
    obtain ⟨_ | key, v⟩ := m
    · simp [readMembers]
    · rw [List.cons_append, readMembers, readMembers]
      split_ifs <;> simp [ih]

namespace Field

/-- A field as far as it is looked at. -/
def lookedAt : Field → Field
  | target t => target { t with type := none }
  | f => f

/-- What a field says is put into a draft. -/
def enter (d : Draft) : Field → Draft
  | location p => { d with location := p.location }
  | range e => { d with range := some e.range }
  | isImplicit b => { d with isImplicit := b }
  | name s => { d with name := some s }
  | type t => { d with type := t.type, desugaredType := t.desugared }
  | storageClass s => { d with storageClass := some s }
  | isInline b => { d with isInline := b }
  | target t => { d with target := t.name }

theorem reads (f : Field) (kind : Kind) (d : Draft) (c : Carried) :
    ReadsAs (fun room => d.add room kind f.key (f.json c)) (f.lookedAt.json c).depth c (f.enter d)
      (f.last c) := by
  cases f with
  | location p =>
    refine ((p.reads c).map fun l => { d with location := l }).congr fun room => ?_
    cases p <;> rfl
  | range e =>
    exact (e.reads c).map fun r => { d with range := some r }
  | isImplicit b =>
    refine (ReadsAs.pure _ _).congr fun room => ?_
    cases kind <;> rfl
  | name s => exact ReadsAs.pure _ _
  | type t =>
    have h := (ReadsAs.lift (c := c) t.types?_json).map fun r : Option String × Option String =>
      { d with type := r.1, desugaredType := r.2 }
    rw [← t.depth_json] at h
    exact h
  | storageClass s => exact ReadsAs.pure _ _
  | isInline b => exact ReadsAs.pure _ _
  | target t =>
    have h := (ReadsAs.lift (c := c) t.target?_json).map fun r : Option String =>
      { d with target := r }
    rw [← t.depth_json_untyped] at h
    exact h

/-- Whether a field means something for a kind. -/
def matters (kind : Kind) (f : Field) : Bool := kind.keys.contains f.key

/-- A draft behind a field, which may mean nothing for its kind. -/
def take (kind : Kind) (d : Draft) (f : Field) : Draft :=
  if f.matters kind then { f.enter d with seen := f.key :: d.seen } else d

theorem key_ne_inner (f : Field) : f.key ≠ "inner" := by
  cases f <;> simp [key]

/-- Places stand only in fields that every kind looks at. -/
theorem last_of_not_matters {kind : Kind} {f : Field} (h : ¬ f.matters kind) (c : Carried) :
    f.last c = c := by
  cases f with
  | location p => cases kind <;> simp [matters, key, Kind.keys] at h
  | range e => cases kind <;> simp [matters, key, Kind.keys] at h
  | _ => rfl

theorem last_lookedAt (f : Field) (c : Carried) : f.lookedAt.last c = f.last c := by
  cases f <;> rfl

theorem reads_member (f : Field) {kind : Kind} {d : Draft} (hk : f.matters kind)
    (hs : f.key ∉ d.seen) (c : Carried) :
    ReadsAs (fun room => (Phase.body kind d).add room f.key (f.json c)) (f.lookedAt.json c).depth c
      (.body kind (f.take kind d)) (f.last c) := by
  have h := (f.reads kind d c).map fun d' : Draft =>
    Phase.body kind { d' with seen := f.key :: d.seen }
  rw [take, if_pos hk]
  refine h.congr fun room => ?_
  rw [matters] at hk
  rw [Phase.add, if_pos hk, if_neg (by simpa using hs)]
  rfl

theorem skips_member {f : Field} {kind : Kind} (hk : ¬ f.matters kind) (d : Draft)
    (c : Carried) :
    ReadsAs (fun room => (Phase.body kind d).add room f.key (f.json c)) 0 c
      (.body kind (f.take kind d)) (f.last c) := by
  rw [take, if_neg hk, last_of_not_matters hk]
  refine (ReadsAs.pure _ _).congr fun room => ?_
  rw [matters] at hk
  rw [Phase.add, if_neg hk]

theorem seen_take_subset (kind : Kind) (d : Draft) (f : Field) :
    (f.take kind d).seen ⊆ f.key :: d.seen := by
  rw [take]
  split_ifs
  · exact List.Subset.refl _
  · exact List.subset_cons_self _ _

theorem reads_members (kind : Kind) (fs : List Field) (d : Draft) (c : Carried)
    (hn : (fs.map key).Nodup) (hs : ∀ f ∈ fs, f.key ∉ d.seen) :
    ReadsAs (fun room => readMembers room (.body kind d) (members c fs))
      (membersDepth (members c ((fs.filter (matters kind)).map lookedAt))) c
      (.body kind (fs.foldl (take kind) d)) (fs.foldl last c) := by
  induction fs generalizing d c with
  | nil => exact (ReadsAs.pure _ _).congr fun room => by rw [members, readMembers]; rfl
  | cons f fs ih =>
    obtain ⟨hf, hn⟩ := List.nodup_cons.1 hn
    have hs' : ∀ g ∈ fs, g.key ∉ (f.take kind d).seen := by
      intro g hg hm
      rcases List.mem_cons.1 (seen_take_subset kind d f hm) with he | hm
      · exact hf (he ▸ List.mem_map_of_mem hg)
      · exact hs g (List.mem_cons_of_mem _ hg) hm
    have hrest := ih (f.take kind d) (f.last c) hn hs'
    have hcons := fun room =>
      readMembers_cons f.key_ne_inner room kind d (f.json c) (members (f.last c) fs)
    -- A field that does not matter is neither read nor counted, whatever it holds.
    by_cases hk : f.matters kind
    · have hd (gs : List Field) : membersDepth (members c (f.lookedAt :: gs)) =
          max (f.lookedAt.json c).depth (membersDepth (members (f.last c) gs)) := by
        rw [members, membersDepth, last_lookedAt]
      rw [List.filter_cons_of_pos hk, List.map_cons, hd]
      exact ((f.reads_member hk (hs f List.mem_cons_self) c).bind hrest).congr hcons
    · have h := ((skips_member hk d c).bind hrest).congr hcons
      have hd (gs : List Field) : membersDepth (members (f.last c) gs) =
          membersDepth (members c gs) := by
        rw [last_of_not_matters hk]
      rw [Nat.zero_max, hd] at h
      rw [List.filter_cons_of_neg hk]
      exact h

/-- Of a run of fields a draft keeps the keys seen and what the fields that matter say. -/
theorem exists_seen_take (kind : Kind) (fs : List Field) (d : Draft) (seen : List String) :
    ∃ seen', fs.foldl (take kind) { d with seen := seen } =
      { ((fs.filter (matters kind)).map lookedAt).foldl enter d with seen := seen' } := by
  induction fs generalizing d seen with
  | nil => exact ⟨seen, rfl⟩
  | cons f fs ih =>
    by_cases hk : f.matters kind
    · have htake : f.take kind { d with seen := seen } =
          { f.lookedAt.enter d with seen := f.key :: seen } := by
        rw [take, if_pos hk]
        cases f <;> rfl
      rw [List.foldl_cons, htake, List.filter_cons_of_pos hk, List.map_cons, List.foldl_cons]
      exact ih _ _
    · have htake : f.take kind { d with seen := seen } = { d with seen := seen } := by
        rw [take, if_neg hk]
      rw [List.foldl_cons, htake, List.filter_cons_of_neg hk]
      exact ih _ _

end Field

namespace Fields

theorem foldl_enter (f : Fields) : f.toList.foldl Field.enter {} =
    { location := (f.location.map Position.location).getD .absent
      range := f.range.map Extent.range
      isImplicit := f.isImplicit.getD false
      name := f.name
      type := f.type.bind TypeText.type
      desugaredType := f.type.bind TypeText.desugared
      storageClass := f.storageClass
      isInline := f.isInline.getD false
      target := f.target.bind Target.name } := by
  have hlocation (d : Draft) (o : Option Position) :
      (o.map Field.location).toList.foldl Field.enter d =
        { d with location := (o.map Position.location).getD d.location } := by
    cases o <;> rfl
  have hrange (d : Draft) (o : Option Extent) :
      (o.map Field.range).toList.foldl Field.enter d =
        { d with range := (o.map Extent.range).or d.range } := by
    cases o <;> rfl
  have himplicit (d : Draft) (o : Option Bool) :
      (o.map Field.isImplicit).toList.foldl Field.enter d =
        { d with isImplicit := o.getD d.isImplicit } := by
    cases o <;> rfl
  have hname (d : Draft) (o : Option String) :
      (o.map Field.name).toList.foldl Field.enter d =
        { d with name := o.or d.name } := by
    cases o <;> rfl
  have htype (d : Draft) (o : Option TypeText) :
      (o.map Field.type).toList.foldl Field.enter d =
        { d with
          type := o.elim d.type TypeText.type
          desugaredType := o.elim d.desugaredType TypeText.desugared } := by
    cases o <;> rfl
  have hstorage (d : Draft) (o : Option String) :
      (o.map Field.storageClass).toList.foldl Field.enter d =
        { d with storageClass := o.or d.storageClass } := by
    cases o <;> rfl
  have hinline (d : Draft) (o : Option Bool) :
      (o.map Field.isInline).toList.foldl Field.enter d =
        { d with isInline := o.getD d.isInline } := by
    cases o <;> rfl
  have htarget (d : Draft) (o : Option Target) :
      (o.map Field.target).toList.foldl Field.enter d =
        { d with target := o.elim d.target Target.name } := by
    cases o <;> rfl
  simp only [toList, List.foldl_append, hlocation, hrange, himplicit, hname, htype, hstorage,
    hinline, htarget, Option.or_none]
  cases f.type <;> cases f.target <;> rfl

theorem toList_lookedAt (f : Fields) (kind : Kind) :
    (f.lookedAt kind).toList = (f.toList.filter (Field.matters kind)).map Field.lookedAt := by
  have hkept {α : Type} {F : α → Field} (o : Option α) (hm : ∀ a, (F a).matters kind = true) :
      ((o.map F).toList.filter (Field.matters kind)).map Field.lookedAt =
        (o.map fun a => (F a).lookedAt).toList := by
    cases o <;> simp [hm]
  have hdropped {α : Type} {F : α → Field} (o : Option α) (hm : ∀ a, (F a).matters kind = false) :
      ((o.map F).toList.filter (Field.matters kind)).map Field.lookedAt = [] := by
    cases o <;> simp [hm]
  unfold toList
  simp only [List.filter_append, List.map_append]
  cases kind with
  | declaration k =>
    rw [hkept f.location (fun _ => rfl), hkept f.range (fun _ => rfl),
      hkept f.isImplicit (fun _ => rfl), hkept f.name (fun _ => rfl), hkept f.type (fun _ => rfl),
      hkept f.storageClass (fun _ => rfl), hkept f.isInline (fun _ => rfl),
      hdropped f.target (fun _ => rfl)]
    rfl
  | reference k =>
    rw [hkept f.location (fun _ => rfl), hkept f.range (fun _ => rfl),
      hkept f.isImplicit (fun _ => rfl), hkept f.name (fun _ => rfl),
      hdropped f.type (fun _ => rfl), hdropped f.storageClass (fun _ => rfl),
      hdropped f.isInline (fun _ => rfl), hkept f.target (fun _ => rfl)]
    simp [lookedAt, Field.lookedAt, Function.comp_def]
  | other =>
    rw [hkept f.location (fun _ => rfl), hkept f.range (fun _ => rfl),
      hkept f.isImplicit (fun _ => rfl), hdropped f.name (fun _ => rfl),
      hdropped f.type (fun _ => rfl), hdropped f.storageClass (fun _ => rfl),
      hdropped f.isInline (fun _ => rfl), hdropped f.target (fun _ => rfl)]
    rfl

theorem nodup_keys (f : Fields) : (f.toList.map Field.key).Nodup := by
  have hsub {α : Type} {F : α → Field} {key : String} (o : Option α) (h : ∀ a, (F a).key = key) :
      ((o.map F).toList.map Field.key).Sublist [key] := by
    cases o <;> simp [h]
  have h : (f.toList.map Field.key).Sublist (["loc"] ++ ["range"] ++ ["isImplicit"] ++ ["name"] ++
      ["type"] ++ ["storageClass"] ++ ["inline"] ++ ["referencedDecl"]) := by
    unfold toList
    simp only [List.map_append]
    refine .append (.append (.append (.append (.append (.append (.append ?_ ?_) ?_) ?_) ?_) ?_)
      ?_) ?_
    all_goals exact hsub _ fun _ => rfl
  exact h.nodup (by decide)

/-- The draft behind the fields of a node. -/
def draft (f : Fields) (kind : Kind) : Draft := f.toList.foldl (Field.take kind) {}

theorem node_draft (f : Fields) (kind : Kind) (children : List Node) :
    Draft.node kind { f.draft kind with children := children } =
      .mk (f.content kind) children := by
  obtain ⟨seen, h⟩ := Field.exists_seen_take kind f.toList {} []
  rw [← toList_lookedAt, foldl_enter] at h
  rw [draft, h]
  cases kind with
  | declaration k => rfl
  | reference k =>
    cases ht : f.target <;> simp [Draft.node, content, lookedAt, ht]
  | other => rfl

theorem children_draft (f : Fields) (kind : Kind) : (f.draft kind).children = [] := by
  obtain ⟨seen, h⟩ := Field.exists_seen_take kind f.toList {} []
  rw [← toList_lookedAt, foldl_enter] at h
  rw [draft, h]

theorem reads (f : Fields) (kind : Kind) (c : Carried) :
    ReadsAs (fun room => readMembers room (.body kind {}) (Field.members c f.toList))
      (membersDepth (Field.members c (f.lookedAt kind).toList)) c (.body kind (f.draft kind))
      (f.toList.foldl Field.last c) := by
  rw [toList_lookedAt]
  exact Field.reads_members kind f.toList {} c f.nodup_keys (by simp)

end Fields

theorem isIdentity_identity (id : UInt64) : isIdentity (identity id) := by
  have hlt : id.toNat < 18446744073709551616 := id.toNat_lt
  have hvalue := Text.digitsValue?_hexadecimal id.toNat
  have hplus : ∀ cs, Text.hexadecimal id.toNat ≠ '+' :: cs := by
    intro cs he
    rw [he] at hvalue
    cases hvalue
  have htext : (identity id).text?.map String.toList =
      some ('0' :: 'x' :: Text.hexadecimal id.toNat) := by
    simp [identity, Json.text, Json.text?]
  rw [isIdentity, htext]
  split
  · next digits he =>
    simp only [Option.some.injEq, List.cons.injEq, true_and] at he
    exact absurd he (hplus digits)
  · next digits _ he =>
    simp only [Option.some.injEq, List.cons.injEq, true_and] at he
    rw [← he, hvalue]
    simpa using hlt
  · next h => exact absurd rfl (h _)

/-- Identity and kind say what kind of node the other members belong to. -/
theorem readMembers_header (room : Nat) (id : UInt64) (label : Label)
    (ms : List (Option String × Json)) :
    readMembers room (.header false)
        ((some "id", identity id) :: (some "kind", .text label.word) :: ms) =
      readMembers room (.body label.kind {}) ms := by
  have hid : (Phase.header false).add room "id" (identity id) = pure (.header true) := by
    simp [Phase.add, isIdentity_identity]
  have hkind : (Phase.header true).add room "kind" (.text label.word) =
      pure (.body label.kind {}) := by
    rw [← Kind.ofName_word]
    rfl
  rw [readMembers, Phase.isChildren, if_neg (by decide), hid, pure_bind]
  rw [readMembers, Phase.isChildren, if_neg (by decide), hkind, pure_bind]

/-- Children are put into the node around them. -/
theorem Fields.reads_inner (f : Fields) (kind : Kind) {ds : List Dump} {c : Carried}
    (h : ReadsAs (fun room => readNodes room (Dump.items c ds))
      (itemsDepth (Dump.items c (Dump.allLookedAt ds))) c (Dump.nodes ds) (Dump.lastOf c ds)) :
    ReadsAs
      (fun room => readMembers room (.body kind (f.draft kind)) (innerMember (Dump.items c ds)))
      (membersDepth (innerMember (Dump.items c (Dump.allLookedAt ds)))) c
      (.body kind { f.draft kind with children := Dump.nodes ds }) (Dump.lastOf c ds) := by
  cases ds with
  | nil =>
    have hdraft : { f.draft kind with children := [] } = f.draft kind := by
      rw [← f.children_draft kind]
    refine (ReadsAs.pure _ _).congr fun room => ?_
    change readMembers room (.body kind (f.draft kind)) [] =
      pure (.body kind { f.draft kind with children := [] })
    rw [readMembers, hdraft]
  | cons d ds =>
    have hchildren : ReadsAs (fun room => readChildren room (.array (Dump.items c (d :: ds))))
        (itemsDepth (Dump.items c (Dump.allLookedAt (d :: ds))) + 1) c (Dump.nodes (d :: ds))
        (Dump.lastOf c (d :: ds)) :=
      h.inside (by rw [readChildren]) fun room => by rw [readChildren]
    have hd : membersDepth (innerMember (Dump.items c (Dump.allLookedAt (d :: ds)))) =
        itemsDepth (Dump.items c (Dump.allLookedAt (d :: ds))) + 1 := by
      simp [Dump.allLookedAt, Dump.items, innerMember, membersDepth, depth]
    rw [hd]
    refine (hchildren.map fun children : List Node =>
      Phase.body kind { f.draft kind with children := children }).congr fun room => ?_
    change readMembers room (.body kind (f.draft kind))
      [(some "inner", .array (Dump.items c (d :: ds)))] = _
    rw [readMembers, Phase.isChildren, if_pos (by decide)]
    simp only [readMembers, Phase.withChildren, bind_pure_comp]

namespace Field

theorem foldl_last_lookedAt (kind : Kind) (fs : List Field) (c : Carried) :
    ((fs.filter (matters kind)).map lookedAt).foldl last c = fs.foldl last c := by
  induction fs generalizing c with
  | nil => rfl
  | cons f fs ih =>
    by_cases hk : f.matters kind
    · rw [List.filter_cons_of_pos hk, List.map_cons, List.foldl_cons, List.foldl_cons,
        last_lookedAt, ih]
    · rw [List.filter_cons_of_neg hk, List.foldl_cons, last_of_not_matters hk, ih]

end Field

theorem Fields.foldl_last_lookedAt (f : Fields) (kind : Kind) (c : Carried) :
    (f.lookedAt kind).toList.foldl Field.last c = f.toList.foldl Field.last c := by
  rw [toList_lookedAt, Field.foldl_last_lookedAt]

mutual

theorem Dump.last_lookedAt (d : Dump) (c : Carried) : d.lookedAt.last c = d.last c := by
  match d with
  | .mk id label fields inner =>
    rw [lookedAt, last, last, fields.foldl_last_lookedAt, Dump.lastOf_allLookedAt inner]

theorem Dump.lastOf_allLookedAt (ds : List Dump) (c : Carried) :
    Dump.lastOf c (Dump.allLookedAt ds) = Dump.lastOf c ds := by
  match ds with
  | [] => rfl
  | d :: ds =>
    rw [allLookedAt, lastOf, lastOf, Dump.last_lookedAt d, Dump.lastOf_allLookedAt ds]

end

mutual

theorem Dump.reads (d : Dump) (c : Carried) :
    ReadsAs (fun room => readNode room (d.json c)) (d.lookedAt.json c).depth c d.node
      (d.last c) := by
  match d with
  | .mk id label fields inner =>
    have hfields := fields.reads label.kind c
    have hinner := fields.reads_inner label.kind
      (Dump.reads_items inner (fields.toList.foldl Field.last c))
    have hmembers := (hfields.bind (f := fun p room => readMembers room p
      (innerMember (items (fields.toList.foldl Field.last c) inner))) hinner).map Phase.node
    -- Identity and kind have no depth, and what is not looked at carries no place.
    have hd : ((Dump.mk id label fields inner).lookedAt.json c).depth =
        max (membersDepth (Field.members c (fields.lookedAt label.kind).toList))
          (membersDepth (innerMember (items (fields.toList.foldl Field.last c)
            (allLookedAt inner)))) + 1 := by
      rw [lookedAt, json, depth, membersDepth, membersDepth, membersDepth_append, depth_identity,
        depth_text, fields.foldl_last_lookedAt]
      simp
    have hnode : (Phase.body label.kind
        { fields.draft label.kind with children := nodes inner }).node =
        (Dump.mk id label fields inner).node := by
      rw [Phase.node, fields.node_draft, node]
    rw [hd, last, ← hnode]
    refine hmembers.inside (by rw [json, readNode]) fun room => ?_
    rw [json, readNode, readMembers_header, readMembers_append]
    simp

theorem Dump.reads_items (ds : List Dump) (c : Carried) :
    ReadsAs (fun room => readNodes room (Dump.items c ds))
      (itemsDepth (Dump.items c (Dump.allLookedAt ds))) c (Dump.nodes ds) (Dump.lastOf c ds) := by
  match ds with
  | [] =>
    exact (ReadsAs.pure _ _).congr fun room => by rw [items, readNodes]; rfl
  | d :: ds =>
    have h := (Dump.reads d c).bind (f := fun n room =>
      (n :: ·) <$> readNodes room (items (d.last c) ds)) ((Dump.reads_items ds (d.last c)).map _)
    have hd : itemsDepth (items c (allLookedAt (d :: ds))) =
        max (d.lookedAt.json c).depth (itemsDepth (items (d.last c) (allLookedAt ds))) := by
      rw [allLookedAt, items, itemsDepth, Dump.last_lookedAt]
    rw [hd]
    exact h.congr fun room => by rw [items, readNodes]; simp

end

theorem Dump.parse?_of_spelledBy {d : Dump} {text : String} (h : d.SpelledBy text) :
    Tree.parse? text = if d.lookedAt.document.depth ≤ maxDepth then some d.node else none := by
  have hread := d.reads {} maxDepth
  rw [Tree.parse?, parse?_eq_some_iff.2 h, Option.bind_some, ofJson?, Dump.document, hread]
  rw [Dump.document]
  split_ifs <;> rfl

end CSymbols.Tree

open CSymbols.Tree

namespace CSymbols.SourceUnit

theorem ofDocument_eq_ok_iff {filePath source mainFile text : String} {u : SourceUnit} :
    ofDocument filePath source mainFile text = .ok u ↔
      ∃ root, Tree.parse? text = some root ∧ u = ⟨filePath, source, mainFile, root, []⟩ := by
  unfold ofDocument
  split
  · next h => simp [h]
  · next root h => simp [h, eq_comm]

/-- A document is read if it is not too deep where it is looked at, and it is read as the tree that
it was written for. -/
theorem ofDocument_dump (d : Dump) (filePath source mainFile : String) :
    d.SpelledBy (Json.compact d.document) ∧
    ∀ text, d.SpelledBy text →
      ((∃ u, ofDocument filePath source mainFile text = .ok u) ↔
        d.lookedAt.document.depth ≤ 127) ∧
      ∀ u, ofDocument filePath source mainFile text = .ok u → u.root = d.node := by
  refine ⟨d.spelledBy_compact, fun text h => ?_⟩
  have hp := Dump.parse?_of_spelledBy h
  simp only [ofDocument_eq_ok_iff, hp, maxDepth]
  split_ifs with hd
  · simp [hd]
  · simp [hd]

/-- A made-up type, a record of a header whose field comes from a macro, and a function that stands
on the line with the number of the place before it, but in another file. -/
def headerDump : Dump :=
  .mk 1 (.other "TranslationUnitDecl" (by decide)) {} [
    .mk 2 (.other "TypedefDecl" (by decide))
      { location := some .absent
        isImplicit := some true
        name := some "__int128_t"
        type := some ⟨some "__int128", none⟩ } [
      .mk 3 (.other "BuiltinType" (by decide)) { type := some ⟨some "__int128", none⟩ } []],
    .mk 4 (.other "RecordDecl" (by decide))
      { location := some (.plain ⟨31, "s.h", 2, none, none, 8, 1, some "m.c", none⟩)
        name := some "S" } [
      .mk 5 (.declaration .field)
        { location := some (.expanded ⟨12, "s.h", 1, none, none, 13, 1, some "m.c", none⟩
            ⟨40, "s.h", 3, none, none, 3, 1, some "m.c", some true⟩)
          name := some "a"
          type := some ⟨some "size_t", some "unsigned long"⟩ } []],
    .mk 6 (.declaration .function)
      { location := some (.plain ⟨60, "m.c", 3, none, none, 5, 1, none, none⟩)
        range := some ⟨.plain ⟨56, "m.c", 3, none, none, 1, 3, none, none⟩,
          .plain ⟨90, "m.c", 4, none, none, 1, 1, none, none⟩⟩
        name := some "f"
        type := some ⟨some "int (void)", none⟩
        storageClass := some "static"
        isInline := some true } [
      .mk 7 (.reference .name) { target := some ⟨4, "RecordDecl", some "S", some "struct S"⟩ } []]]

/-- The tree of that dump. -/
def headerTree : Node :=
  .mk (.other ⟨.absent, none, false⟩) [
    .mk (.other ⟨.absent, none, true⟩) [.mk (.other ⟨.absent, none, false⟩) []],
    .mk (.other ⟨.plain ⟨31, "s.h", 2, 8, 1⟩, none, false⟩) [
      .mk (.declaration
        { kind := .field
          name := some "a"
          location := .expanded ⟨12, "s.h", 1, 13, 1⟩ ⟨40, "s.h", 3, 3, 1⟩
          range := none
          isImplicit := false
          type := some "size_t"
          desugaredType := some "unsigned long"
          storageClass := none
          isInline := false }) []],
    .mk (.declaration
      { kind := .function
        name := some "f"
        location := .plain ⟨60, "m.c", 3, 5, 1⟩
        range := some ⟨.plain ⟨56, "m.c", 3, 1, 3⟩, .plain ⟨90, "m.c", 4, 1, 1⟩⟩
        isImplicit := false
        type := some "int (void)"
        desugaredType := none
        storageClass := some "static"
        isInline := true }) [
      .mk (.reference ⟨.name, some "S", none, .absent, none, false⟩) []]]

theorem ofDocument_headerDump : headerDump.lookedAt.document.depth = 8 ∧
    ∃ u, ofDocument "m.c" "" "m.c" (Json.compact headerDump.document) = .ok u ∧
      u.root = headerTree := by
  have hd : headerDump.lookedAt.document.depth = 8 := by decide
  have hn : headerDump.node = headerTree := rfl
  obtain ⟨hs, h⟩ := ofDocument_dump headerDump "m.c" "" "m.c"
  obtain ⟨u, hu⟩ := (h _ hs).1.2 (by rw [hd]; decide)
  exact ⟨hd, u, hu, ((h _ hs).2 u hu).trans hn⟩

end CSymbols.SourceUnit
