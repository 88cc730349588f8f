import CSymbols.Proofs.TreeRoundTrip
import Mathlib.Logic.Relation

/-! Members under keys that mean nothing for the kind of their node: a document is read in the same
way with them and without them. -/
namespace CSymbols.Tree

open Json

/-- The kind that the members of a node give it. -/
def kindOf? (members : List (Option String × Json)) : Option Kind :=
  ((members.find? fun m => m.1 == some "kind").bind fun m => m.2.text?).map Kind.ofName

/-- A member adds to the draft of a node and does not change its kind. -/
theorem Phase.add_body {room : Nat} {kind : Kind} {d : Draft} {key : String} {v : Json}
    {c c' : Carried} {p : Phase}
    (h : ((Phase.body kind d).add room key v).run c = some (p, c')) : ∃ d', p = .body kind d' := by
  rw [Phase.add] at h
  split_ifs at h
  · cases h
  · rw [StateT.run_bind] at h
    obtain ⟨⟨d', c₁⟩, -, hr⟩ := Option.bind_eq_some_iff.1 h
    obtain ⟨rfl, -⟩ := Prod.mk.inj (Option.some.inj hr)
    exact ⟨_, rfl⟩
  · obtain ⟨rfl, -⟩ := Prod.mk.inj (Option.some.inj h)
    exact ⟨d, rfl⟩

theorem readMembers_body {room : Nat} {kind : Kind} {d : Draft}
    {ms : List (Option String × Json)} {c c' : Carried} {p : Phase}
    (h : (readMembers room (.body kind d) ms).run c = some (p, c')) : ∃ d', p = .body kind d' := by
  induction ms generalizing d c with
  | nil =>
    rw [readMembers] at h
    obtain ⟨rfl, -⟩ := Prod.mk.inj (Option.some.inj h)
    exact ⟨d, rfl⟩
  | cons m ms ih =>
    obtain ⟨_ | key, v⟩ := m
    · rw [readMembers] at h
      cases h
    · rw [readMembers] at h
      split_ifs at h
      · rw [StateT.run_bind] at h
        obtain ⟨⟨children, c₁⟩, -, hr⟩ := Option.bind_eq_some_iff.1 h
        exact ih hr
      · rw [StateT.run_bind] at h
        obtain ⟨⟨q, c₁⟩, hq, hr⟩ := Option.bind_eq_some_iff.1 h
        obtain ⟨d', rfl⟩ := Phase.add_body hq
        exact ih hr

/-- Behind the member that gives the kind, a node is known to be of that kind. -/
theorem readMembers_kind {room : Nat} {identified : Bool} {kind : Kind}
    {ms : List (Option String × Json)} (hk : kindOf? ms = some kind) {c c' : Carried} {p : Phase}
    (h : (readMembers room (.header identified) ms).run c = some (p, c')) :
    ∃ d, p = .body kind d := by
  induction ms generalizing identified c with
  | nil => cases hk
  | cons m ms ih =>
    obtain ⟨_ | key, v⟩ := m
    · rw [readMembers] at h
      cases h
    · rw [readMembers, Phase.isChildren, if_neg (by decide), StateT.run_bind] at h
      obtain ⟨⟨q, c₁⟩, hq, hr⟩ := Option.bind_eq_some_iff.1 h
      rw [Phase.add] at hq
      split_ifs at hq with hkind hid
      · have hkey : key = "kind" := by simpa using hkind
        subst hkey
        cases hv : v.text? with
        | none => simp [hv] at hq
        | some name =>
          simp [hv] at hq
          simp [kindOf?, hv] at hk
          obtain ⟨rfl, -⟩ := hq
          subst hk
          exact readMembers_body hr
      · obtain ⟨rfl, -⟩ := Prod.mk.inj (Option.some.inj hq)
        have hne : (some key == some "kind") = false := by simpa using hkind
        rw [kindOf?, List.find?_cons_of_neg (by simp [hne])] at hk
        exact ih hk hr
      · cases hq

/-- A member under a key that means nothing for the kind of its node is passed over. -/
theorem readMembers_insert {before : List (Option String × Json)} {kind : Kind}
    (hk : kindOf? before = some kind) {key : String} (hkey : key ∉ kind.keys)
    (hinner : key ≠ "inner") (room : Nat) (v : Json) (after : List (Option String × Json)) :
    readMembers room (.header false) (before ++ (some key, v) :: after) =
      readMembers room (.header false) (before ++ after) := by
  rw [readMembers_append, readMembers_append]
  refine StateT.ext fun c => ?_
  rw [StateT.run_bind, StateT.run_bind]
  cases h : (readMembers room (.header false) before).run c with
  | none => rfl
  | some r =>
    obtain ⟨p, c'⟩ := r
    obtain ⟨d, rfl⟩ := readMembers_kind hk h
    -- The kind is known here, and the draft is left as it is.
    have hadd : (Phase.body kind d).add room key v = pure (.body kind d) := by
      rw [Phase.add, if_neg (by simpa using hkey)]
    change (readMembers room (.body kind d) ((some key, v) :: after)).run c' = _
    rw [readMembers_cons hinner, hadd, pure_bind]
    rfl

/-- The value of a document with one more member that means nothing for its node: at the node
itself, or at one of its children. -/
inductive Extended : Json → Json → Prop where
  | here {before after : List (Option String × Json)} {key : String} {v : Json} {kind : Kind}
      (hk : kindOf? before = some kind) (hkey : key ∉ kind.keys) (hinner : key ≠ "inner") :
      Extended (.object (before ++ after)) (.object (before ++ (some key, v) :: after))
  | child {before after : List (Option String × Json)} {elder younger : List Json} {v v' : Json}
      (h : Extended v v') :
      Extended (.object (before ++ (some "inner", .array (elder ++ v :: younger)) :: after))
        (.object (before ++ (some "inner", .array (elder ++ v' :: younger)) :: after))

theorem readNodes_congr {room : Nat} {v v' : Json} (h : readNode room v' = readNode room v)
    (elder younger : List Json) :
    readNodes room (elder ++ v' :: younger) = readNodes room (elder ++ v :: younger) := by
  induction elder with
  | nil => rw [List.nil_append, List.nil_append, readNodes, readNodes, h]
  | cons w ws ih => rw [List.cons_append, List.cons_append, readNodes, readNodes, ih]

theorem readChildren_congr {v v' : Json} (h : ∀ room, readNode room v' = readNode room v)
    (room : Nat) (elder younger : List Json) :
    readChildren room (.array (elder ++ v' :: younger)) =
      readChildren room (.array (elder ++ v :: younger)) := by
  cases room with
  | zero => rw [readChildren, readChildren]
  | succ room => rw [readChildren, readChildren, readNodes_congr (h room)]

theorem readMembers_inner_congr {room : Nat} {v v' : Json}
    (h : readChildren room v' = readChildren room v) (p : Phase)
    (after : List (Option String × Json)) :
    readMembers room p ((some "inner", v') :: after) =
      readMembers room p ((some "inner", v) :: after) := by
  rw [readMembers, readMembers]
  cases p with
  | header identified => rfl
  | body kind d => rw [h]; rfl

theorem Extended.readNode_eq {v v' : Json} (h : Extended v v') (room : Nat) :
    readNode room v' = readNode room v := by
  induction h generalizing room with
  | here hk hkey hinner =>
    cases room with
    | zero => rw [readNode, readNode]
    | succ room => rw [readNode, readNode, readMembers_insert hk hkey hinner]
  | @child before after elder younger _ _ _ ih =>
    cases room with
    | zero => rw [readNode, readNode]
    | succ room =>
      have hinner (p : Phase) := readMembers_inner_congr
        (readChildren_congr ih room elder younger) p after
      rw [readNode, readNode, readMembers_append, readMembers_append]
      simp only [hinner]

/-- Where a node stands: it is the whole document, or one of the children of a node. -/
inductive NodePlace : List Frame → Prop where
  | root : NodePlace []
  | child {elder : List Json} {members : List (Option String × Json)} {frames : List Frame}
      (h : NodePlace frames) : NodePlace (.array elder :: .object members (some "inner") :: frames)

/-- Behind these tokens a member of a node has just ended, and the node is of this kind. -/
def EndsMember (ts : List Token) (kind : Kind) : Prop :=
  ∃ v members key frames,
    (⟨.value, []⟩ : State).run ts = some ⟨.next v, .object members key :: frames⟩ ∧
    NodePlace frames ∧ kindOf? ((key, v) :: members).reverse = some kind

/-- A text comes from another one by one more member of a node: it stands behind the one that gives
the kind of the node, and its key means nothing for this kind. -/
def Inserts (key : Option String) (text text' : String) : Prop :=
  ∃ before after v kind,
    tokens text.toList = some (before ++ after) ∧
    tokens text'.toList =
      some (before ++ .comma :: .string key :: .colon :: (spelling v ++ after)) ∧
    EndsMember before kind ∧ ∀ name ∈ key, name ∉ kind.keys ∧ name ≠ "inner"

/-- Such a text is got by writing the member between the text in front of it and a delimiter. -/
theorem inserts_of_append {front rest member : List Char} {d : Char} (hd : Delimits d)
    {before after : List Token} {kind : Kind} {key : Option String} {v : Json}
    (hfront : tokens front = some before) (hrest : tokens (d :: rest) = some after)
    (hmember : tokens member = some (.string key :: .colon :: spelling v))
    (hends : EndsMember before kind) (hkey : ∀ name ∈ key, name ∉ kind.keys ∧ name ≠ "inner") :
    Inserts key (String.ofList (front ++ d :: rest))
      (String.ofList (front ++ ',' :: (member ++ d :: rest))) := by
  refine ⟨before, after, v, kind, ?_, ?_, hends, hkey⟩
  · rw [String.toList_ofList, tokens_append hfront hd, hrest]
    rfl
  · rw [String.toList_ofList, tokens_append hfront (by decide), tokens_comma,
      tokens_append hmember hd, hrest]
    rfl

theorem NodePlace.run_extended {frames : List Frame} (hp : NodePlace frames) {v v' root : Json}
    (h : Extended v v') {ts : List Token}
    (hr : (⟨.next v, frames⟩ : State).run ts = some (.finished root)) :
    ∃ root', (⟨.next v', frames⟩ : State).run ts = some (.finished root') ∧
      Extended root root' := by
  induction hp generalizing v v' ts with
  | root =>
    obtain ⟨rfl, rfl⟩ := run_finished hr
    exact ⟨v', rfl, h⟩
  | @child elder members frames _ ih =>
    -- Behind the node its younger siblings follow, and then the members of the node around it.
    obtain ⟨younger, rest, rfl, hitems⟩ := (accounted root ts.length).items (Nat.le_refl _) hr
    obtain ⟨more, rest, rfl, hmembers⟩ :=
      (accounted root rest.length).members (Nat.le_refl _) hitems
    obtain ⟨root', hr', he⟩ := ih (.child h) hmembers
    refine ⟨root', ?_, he⟩
    rw [run_moreItems, run_moreMembers, hr']

theorem Inserts.extended {name text text' : String} (h : Inserts (some name) text text') {v : Json}
    (hv : Json.parse? text = some v) : ∃ v', Json.parse? text' = some v' ∧ Extended v v' := by
  obtain ⟨before, after, w, kind, ht, ht', ⟨x, members, key, frames, hb, hp, hk⟩, hn⟩ := h
  obtain ⟨hkey, hinner⟩ := hn name rfl
  rw [Json.parse?, ht, Option.bind_some, ofTokens?_eq_some_iff_run, State.run_append, hb,
    Option.bind_some] at hv
  obtain ⟨more, rest, rfl, hr⟩ := (accounted v after.length).members (Nat.le_refl _) hv
  have hx : Extended (.object (members.reverse ++ (key, x) :: more))
      (.object (members.reverse ++ (key, x) :: (some name, w) :: more)) := by
    have hhere : Extended (.object (((key, x) :: members).reverse ++ more))
        (.object (((key, x) :: members).reverse ++ (some name, w) :: more)) :=
      .here hk hkey hinner
    simpa using hhere
  obtain ⟨v', hr', he⟩ := hp.run_extended hx hr
  refine ⟨v', ?_, he⟩
  have hmember : .comma :: .string (some name) :: .colon ::
      (spelling w ++ (moreMembers more ++ .rightBrace :: rest)) =
      moreMembers ((some name, w) :: more) ++ .rightBrace :: rest := by
    simp [moreMembers]
  rw [Json.parse?, ht', Option.bind_some, ofTokens?_eq_some_iff_run, State.run_append, hb,
    Option.bind_some, hmember, run_moreMembers, hr']

/-- A text comes from another one by any number of members that mean nothing. -/
def Extends (text text' : String) : Prop :=
  Relation.ReflTransGen (fun s s' => ∃ name : String, Inserts (some name) s s') text text'

theorem Extends.readNode_eq {text text' : String} (h : Extends text text') {v : Json}
    (hv : Json.parse? text = some v) :
    ∃ v', Json.parse? text' = some v' ∧ ∀ room, readNode room v' = readNode room v := by
  induction h with
  | refl => exact ⟨v, hv, fun _ => rfl⟩
  | tail _ hi ih =>
    obtain ⟨w, hw, hread⟩ := ih
    obtain ⟨name, hi⟩ := hi
    obtain ⟨v', hv', he⟩ := hi.extended hw
    exact ⟨v', hv', fun room => (he.readNode_eq room).trans (hread room)⟩

end CSymbols.Tree

open CSymbols.Tree CSymbols.Json

namespace CSymbols.SourceUnit

/-- Members that mean nothing for their nodes do not show: a text that is read is read with them as
well, to the same unit, so that its occurrences and its report are the same. From whatever file and
line the document is read, it is read to the same tree and carries on the same file and line. -/
theorem ofDocument_extends {text text' : String} (h : Extends text text')
    {filePath source mainFile : String} {u : SourceUnit}
    (hu : ofDocument filePath source mainFile text = .ok u) :
    ofDocument filePath source mainFile text' = .ok u ∧
    ∃ v v', Json.parse? text = some v ∧ Json.parse? text' = some v' ∧
      ∀ room carried, (readNode room v').run carried = (readNode room v).run carried := by
  obtain ⟨root, hp, rfl⟩ := ofDocument_eq_ok_iff.1 hu
  obtain ⟨v, hv, hroot⟩ := Option.bind_eq_some_iff.1 hp
  obtain ⟨v', hv', hread⟩ := h.readNode_eq hv
  have hp' : Tree.parse? text' = some root := by
    rw [Tree.parse?, hv', Option.bind_some, ofJson?, hread]
    exact hroot
  exact ⟨ofDocument_eq_ok_iff.2 ⟨root, hp', rfl⟩, v, v', hv, hv',
    fun room carried => by rw [hread]⟩

/-- The document of a variable up to its kind. -/
def frontText : List Char :=
  "\x7b\"kind\":\"TranslationUnitDecl\",\"inner\":[\x7b\"kind\":\"VarDecl\"".toList

/-- A member that looks like a place and holds something like a node. -/
def memberText : List Char :=
  (" \"expansionLoc\": \x7b\"file\": \"a.h\", \"line\": 7, " ++
    "\"inner\": [\x7b\"kind\": \"VarDecl\", \"name\": \"y\"\x7d]\x7d").toList

/-- The document of the variable behind the comma that follows its kind. -/
def restText : List Char := "\"name\":\"x\"\x7d]\x7d".toList

theorem extends_memberText : Extends (String.ofList (frontText ++ ',' :: restText))
    (String.ofList (frontText ++ ',' :: (memberText ++ ',' :: restText))) := by
  have hfront : tokens frontText = some [.leftBrace, .string (some "kind"), .colon,
      .string (some "TranslationUnitDecl"), .comma, .string (some "inner"), .colon, .leftBracket,
      .leftBrace, .string (some "kind"), .colon, .string (some "VarDecl")] := by
    decide +kernel
  have hrest : tokens (',' :: restText) = some [.comma, .string (some "name"), .colon,
      .string (some "x"), .rightBrace, .rightBracket, .rightBrace] := by
    decide +kernel
  have hmember : tokens memberText = some (.string (some "expansionLoc") :: .colon ::
      spelling (.record [("file", .text "a.h"), ("line", .number "7"), ("inner", .array [
        .record [("kind", .text "VarDecl"), ("name", .text "y")]])])) := by
    decide +kernel
  exact .single ⟨"expansionLoc", inserts_of_append (by decide) hfront hrest hmember
    ⟨_, _, _, _, rfl, .child .root, rfl⟩ (by decide)⟩

theorem ofDocument_memberText :
    ∃ u, ofDocument "m.c" "" "m.c" (String.ofList (frontText ++ ',' :: restText)) = .ok u ∧
      ofDocument "m.c" "" "m.c"
        (String.ofList (frontText ++ ',' :: (memberText ++ ',' :: restText))) = .ok u := by
  have hp : (Tree.parse? (String.ofList (frontText ++ ',' :: restText))).isSome := by
    decide +kernel
  obtain ⟨root, hroot⟩ := Option.isSome_iff_exists.1 hp
  have hu : ofDocument "m.c" "" "m.c" (String.ofList (frontText ++ ',' :: restText)) =
      .ok ⟨"m.c", "", "m.c", root, []⟩ := ofDocument_eq_ok_iff.2 ⟨root, hroot, rfl⟩
  exact ⟨_, hu, (ofDocument_extends extends_memberText hu).1⟩

/-- A key that denotes no text is no key that means something, and yet it spoils the document. -/
theorem ofDocument_inserts_textlessKey :
    (∃ u, ofDocument "m.c" "" "m.c" "\x7b\"kind\":\"VarDecl\"\x7d" = .ok u) ∧
    Inserts none "\x7b\"kind\":\"VarDecl\"\x7d" "\x7b\"kind\":\"VarDecl\",\"\\ud800\":1\x7d" ∧
    ∀ u, ofDocument "m.c" "" "m.c" "\x7b\"kind\":\"VarDecl\",\"\\ud800\":1\x7d" ≠ .ok u := by
  have hp : (Tree.parse? "\x7b\"kind\":\"VarDecl\"\x7d").isSome := by decide +kernel
  have hn : (Tree.parse? "\x7b\"kind\":\"VarDecl\",\"\\ud800\":1\x7d").isNone := by decide +kernel
  refine ⟨?_, ?_, ?_⟩
  · obtain ⟨root, hroot⟩ := Option.isSome_iff_exists.1 hp
    exact ⟨_, ofDocument_eq_ok_iff.2 ⟨root, hroot, rfl⟩⟩
  · refine ⟨[.leftBrace, .string (some "kind"), .colon, .string (some "VarDecl")], [.rightBrace],
      .number "1", .declaration .object, ?_, ?_, ⟨_, _, _, _, rfl, .root, rfl⟩, ?_⟩
    · decide +kernel
    · decide +kernel
    · simp
  · intro u hu
    obtain ⟨root, hroot, -⟩ := ofDocument_eq_ok_iff.1 hu
    rw [hroot] at hn
    cases hn

end CSymbols.SourceUnit
