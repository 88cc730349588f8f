import CSymbols.Proofs.CommaDepth

/-! The division of a parameter list, told from the list as a whole: a comma joins two pieces just
if no bracket is open in front of it. There is one division of each list. Behind a comma that joins
two pieces the count of brackets begins anew, so the types of a list divide no further, and put
together again they are divided into the same ones, also where brackets have no partner. -/
namespace CSymbols.Spelling

/-- The number of brackets that a text leaves open. A closing bracket closes one of any kind; where
none is open it does nothing. -/
inductive LeavesOpen : List Char → Nat → Prop
  | start : LeavesOpen [] 0
  | opening {text : List Char} {depth : Nat} {c partner : Char} (h : LeavesOpen text depth)
      (hp : (c, partner) ∈ brackets) : LeavesOpen (text ++ [c]) (depth + 1)
  | closing {text : List Char} {depth : Nat} {c partner : Char} (h : LeavesOpen text depth)
      (hp : (partner, c) ∈ brackets) : LeavesOpen (text ++ [c]) (depth - 1)
  | other {text : List Char} {depth : Nat} {c : Char} (h : LeavesOpen text depth)
      (hc : ¬IsBracket c) : LeavesOpen (text ++ [c]) depth

/-- Pieces of a text, joined by commas. What stands in front of a comma is told by the pieces up to
it: it leaves no bracket open if the comma joins two pieces, and one or more if the comma is part of
a piece. -/
structure Division (text : List Char) (pieces : List (List Char)) : Prop where
  text_eq : [','].intercalate pieces = text
  joining : ∀ front back, front ≠ [] → back ≠ [] → pieces = front ++ back →
    LeavesOpen ([','].intercalate front) 0
  inside : ∀ front before behind back, pieces = front ++ (before ++ ',' :: behind) :: back →
    ∃ depth > 0, LeavesOpen ([','].intercalate (front ++ [before])) depth

theorem depthAfter_partner {opening closing : Char} (h : (opening, closing) ∈ brackets)
    (depth : Nat) : depthAfter depth closing = depth - 1 := by
  simp only [brackets, List.mem_cons, Prod.mk.injEq, List.not_mem_nil, or_false] at h
  rcases h with ⟨-, rfl⟩ | ⟨-, rfl⟩ | ⟨-, rfl⟩ <;> rfl

theorem LeavesOpen.step {text : List Char} {depth : Nat} (h : LeavesOpen text depth) (c : Char) :
    LeavesOpen (text ++ [c]) (depthAfter depth c) := by
  by_cases hc : IsBracket c
  · obtain ⟨⟨opening, closing⟩, hp, rfl | rfl⟩ := hc
    · rw [(depthAfter_bracket hp depth).1]
      exact h.opening hp
    · rw [depthAfter_partner hp]
      exact h.closing hp
  · rw [depthAfter_char hc]
    exact h.other hc

theorem LeavesOpen.append {front : List Char} {depth : Nat} (h : LeavesOpen front depth)
    (back : List Char) : LeavesOpen (front ++ back) (depthBehind depth back) := by
  induction back generalizing front depth with
  | nil => simpa using h
  | cons c back ih =>
    have hback := ih (h.step c)
    rwa [List.append_assoc, List.singleton_append] at hback

theorem LeavesOpen.depthBehind {text : List Char} {depth : Nat} (h : LeavesOpen text depth) :
    Spelling.depthBehind 0 text = depth := by
  induction h with
  | start => rfl
  | opening _ hp ih => simp [ih, (depthAfter_bracket hp _).1]
  | closing _ hp ih => simp [ih, depthAfter_partner hp]
  | other _ hc ih => simp [ih, depthAfter_char hc]

theorem leavesOpen_iff {text : List Char} {depth : Nat} :
    LeavesOpen text depth ↔ depthBehind 0 text = depth := by
  constructor
  · exact LeavesOpen.depthBehind
  · rintro rfl
    exact LeavesOpen.start.append text

/-- Pieces that can stand side by side, told from each of them alone: none has a comma that divides
it, and one that another follows leaves no bracket open. -/
structure SideBySide (pieces : List (List Char)) : Prop where
  whole : ∀ piece ∈ pieces, Whole 0 piece
  closed : pieces.Pairwise fun piece _ => depthBehind 0 piece = 0

theorem SideBySide.sublist {kept pieces : List (List Char)} (h : SideBySide pieces)
    (hs : kept.Sublist pieces) : SideBySide kept where
  whole piece hp := h.whole piece (hs.subset hp)
  closed := h.closed.sublist hs

theorem sideBySide_singleton {piece : List Char} : SideBySide [piece] ↔ Whole 0 piece := by
  constructor
  · intro h
    exact h.whole piece List.mem_cons_self
  · intro h
    exact ⟨by simpa using h, List.pairwise_singleton _ _⟩

theorem sideBySide_cons_cons {piece next : List Char} {pieces : List (List Char)} :
    SideBySide (piece :: next :: pieces) ↔
      Whole 0 piece ∧ depthBehind 0 piece = 0 ∧ SideBySide (next :: pieces) := by
  constructor
  · intro h
    obtain ⟨hclosed, hpairs⟩ := List.pairwise_cons.1 h.closed
    exact ⟨h.whole piece List.mem_cons_self, hclosed next List.mem_cons_self,
      fun p hp => h.whole p (List.mem_cons_of_mem _ hp), hpairs⟩
  · rintro ⟨hw, hzero, h⟩
    exact ⟨List.forall_mem_cons.2 ⟨hw, h.whole⟩,
      List.pairwise_cons.2 ⟨fun _ _ => hzero, h.closed⟩⟩

theorem commaPieces_ne_nil (depth : Nat) (cs : List Char) : commaPieces depth cs ≠ [] := by
  obtain ⟨piece, pieces, hp, -⟩ := exists_firstPiece depth cs
  simp [hp]

theorem intercalate_extendFirst (c : Char) (pieces : List (List Char)) :
    [','].intercalate (extendFirst c pieces) = c :: [','].intercalate pieces := by
  cases pieces with
  | nil => rfl
  | cons piece pieces =>
    cases pieces with
    | nil => rfl
    | cons next pieces => simp [extendFirst, List.intercalate_cons_cons]

/-- Nothing but the commas between them is missing from the pieces. -/
theorem intercalate_commaPieces (depth : Nat) (cs : List Char) :
    [','].intercalate (commaPieces depth cs) = cs := by
  induction cs generalizing depth with
  | nil => rfl
  | cons c cs ih =>
    by_cases hc : c = ',' ∧ depth = 0
    · obtain ⟨rfl, rfl⟩ := hc
      rw [commaPieces_comma, List.intercalate_cons_of_ne_nil (commaPieces_ne_nil 0 cs), ih]
      rfl
    · rw [commaPieces_char hc, intercalate_extendFirst, ih]

/-- A comma ends the first piece just if no comma in front of it does and no bracket is open. -/
theorem commaPieces_append_comma_iff {piece rest : List Char} {pieces : List (List Char)} :
    commaPieces 0 (piece ++ ',' :: rest) = piece :: pieces ↔
      Whole 0 piece ∧ depthBehind 0 piece = 0 ∧ commaPieces 0 rest = pieces := by
  rw [commaPieces_eq_cons_iff]
  constructor
  · rintro ⟨hw, ⟨he, -⟩ | ⟨behind, he, hzero, rfl⟩⟩
    · simp at he
    · obtain rfl : rest = behind := by simpa using he
      exact ⟨hw, hzero, rfl⟩
  · rintro ⟨hw, hzero, rfl⟩
    exact ⟨hw, .inr ⟨rest, rfl, hzero, rfl⟩⟩

theorem commaPieces_intercalate_iff {pieces : List (List Char)} (hne : pieces ≠ []) :
    commaPieces 0 ([','].intercalate pieces) = pieces ↔ SideBySide pieces := by
  induction pieces with
  | nil => exact absurd rfl hne
  | cons piece pieces ih =>
    cases pieces with
    | nil =>
      rw [List.intercalate_singleton, commaPieces_eq_cons_iff, sideBySide_singleton]
      simp [FirstPiece]
    | cons next pieces =>
      rw [List.intercalate_cons_cons, List.append_assoc, List.singleton_append,
        commaPieces_append_comma_iff, ih (by simp), sideBySide_cons_cons]

theorem sideBySide_commaPieces (cs : List Char) : SideBySide (commaPieces 0 cs) := by
  rw [← commaPieces_intercalate_iff (commaPieces_ne_nil 0 cs), intercalate_commaPieces]

theorem intercalate_concat {front : List (List Char)} (h : front ≠ []) (piece : List Char) :
    [','].intercalate (front ++ [piece]) = [','].intercalate front ++ ',' :: piece := by
  induction front with
  | nil => exact absurd rfl h
  | cons p front ih =>
    by_cases hf : front = []
    · simp [hf, List.intercalate_cons_cons]
    · rw [List.cons_append, List.intercalate_cons_of_ne_nil (by simp), ih hf,
        List.intercalate_cons_of_ne_nil hf]
      simp

/-- Behind a comma at depth zero the depth is that of the piece there, whatever stands in front. -/
theorem depthBehind_intercalate_concat {front : List (List Char)}
    (h : depthBehind 0 ([','].intercalate front) = 0) (piece : List Char) :
    depthBehind 0 ([','].intercalate (front ++ [piece])) = depthBehind 0 piece := by
  by_cases hf : front = []
  · rw [hf, List.nil_append, List.intercalate_singleton]
  · rw [intercalate_concat hf, depthBehind_append, h]
    rfl

theorem depthBehind_intercalate {front : List (List Char)}
    (h : ∀ piece ∈ front, depthBehind 0 piece = 0) :
    depthBehind 0 ([','].intercalate front) = 0 := by
  induction front with
  | nil => rfl
  | cons piece front ih =>
    have hp := h piece List.mem_cons_self
    by_cases hf : front = []
    · rw [hf, List.intercalate_singleton, hp]
    · rw [List.intercalate_cons_of_ne_nil hf, depthBehind_append, depthBehind_append, hp]
      exact ih fun p hp => h p (List.mem_cons_of_mem _ hp)

theorem Division.sideBySide {text : List Char} {pieces : List (List Char)}
    (h : Division text pieces) : SideBySide pieces := by
  have hfront : ∀ front back, back ≠ [] → pieces = front ++ back →
      depthBehind 0 ([','].intercalate front) = 0 := by
    intro front back hb he
    by_cases hf : front = []
    · rw [hf]
      rfl
    · exact leavesOpen_iff.1 (h.joining front back hf hb he)
  -- So the depth at a place in a piece does not depend on the pieces in front of it.
  constructor
  · intro piece hp before behind he
    obtain ⟨front, back, hpieces⟩ := List.append_of_mem hp
    have hzero := hfront front (piece :: back) (by simp) hpieces
    obtain ⟨depth, hpos, hopen⟩ := h.inside front before behind back (by rw [hpieces, he])
    rw [leavesOpen_iff, depthBehind_intercalate_concat hzero] at hopen
    omega
  · rw [List.pairwise_iff_forall_sublist]
    intro piece next hs
    obtain ⟨left, right, hpieces, hp, hnext⟩ := List.cons_sublist_iff.1 hs
    obtain ⟨front, back, rfl⟩ := List.append_of_mem hp
    have hright : right ≠ [] := List.ne_nil_of_mem (List.singleton_sublist.1 hnext)
    have hzero := hfront front (piece :: back ++ right) (by simp) (by simp [hpieces])
    have hbehind := hfront (front ++ [piece]) (back ++ right) (by simp [hright]) (by simp [hpieces])
    rwa [depthBehind_intercalate_concat hzero] at hbehind

theorem SideBySide.division {pieces : List (List Char)} (h : SideBySide pieces) :
    Division ([','].intercalate pieces) pieces := by
  have hfront : ∀ front back, back ≠ [] → pieces = front ++ back →
      depthBehind 0 ([','].intercalate front) = 0 := by
    rintro front back hb rfl
    obtain ⟨next, hnext⟩ := List.exists_mem_of_ne_nil back hb
    obtain ⟨-, -, hclosed⟩ := List.pairwise_append.1 h.closed
    exact depthBehind_intercalate fun piece hp => hclosed piece hp next hnext
  refine ⟨rfl, ?_, ?_⟩
  · intro front back _ hb he
    exact leavesOpen_iff.2 (hfront front back hb he)
  · intro front before behind back he
    have hzero := hfront front _ (by simp) he
    have hpiece := h.whole (before ++ ',' :: behind) (by simp [he]) before behind rfl
    refine ⟨depthBehind 0 before, Nat.pos_of_ne_zero hpiece, leavesOpen_iff.2 ?_⟩
    exact depthBehind_intercalate_concat hzero before

/-- The division of a text is what the scan for commas finds. -/
theorem division_iff {text : List Char} {pieces : List (List Char)} (ht : text ≠ []) :
    Division text pieces ↔ pieces = commaPieces 0 text := by
  constructor
  · intro h
    have hne : pieces ≠ [] := by
      rintro rfl
      exact ht h.text_eq.symm
    have hpieces := (commaPieces_intercalate_iff hne).2 h.sideBySide
    rw [h.text_eq] at hpieces
    exact hpieces.symm
  · rintro rfl
    have hdivision := (sideBySide_commaPieces text).division
    rwa [intercalate_commaPieces] at hdivision

theorem whole_blank {blanks : List Char} (h : Text.Blank blanks) (depth : Nat) :
    Whole depth blanks ∧ depthBehind depth blanks = depth := by
  induction blanks with
  | nil => exact ⟨whole_nil depth, rfl⟩
  | cons c blanks ih =>
    obtain ⟨hc, hn⟩ := plain_of_isBlank (h c List.mem_cons_self)
    simpa [depthAfter_char hc, hn] using ih fun c hc => h c (List.mem_cons_of_mem _ hc)

theorem whole_trim (cs : List Char) (depth : Nat) :
    (Whole depth (Text.trim cs) ↔ Whole depth cs) ∧
      depthBehind depth (Text.trim cs) = depthBehind depth cs := by
  obtain ⟨front, back, hfront, hback, hcs, -⟩ :=
    Text.trim_eq_iff.1 (rfl : Text.trim cs = Text.trim cs)
  generalize Text.trim cs = text at hcs
  subst hcs
  simp [whole_blank hfront, whole_blank hback]

/-- Margins belong to no bracket, so pieces may lose them. -/
theorem sideBySide_map_trim {pieces : List (List Char)} :
    SideBySide (pieces.map Text.trim) ↔ SideBySide pieces := by
  have hclosed : (pieces.map Text.trim).Pairwise (fun piece _ => depthBehind 0 piece = 0) ↔
      pieces.Pairwise fun piece _ => depthBehind 0 piece = 0 := by
    simp only [List.pairwise_map, (whole_trim _ 0).2]
  have hwhole : (∀ piece ∈ pieces.map Text.trim, Whole 0 piece) ↔
      ∀ piece ∈ pieces, Whole 0 piece := by
    simp only [List.forall_mem_map, (whole_trim _ 0).1]
  constructor
  · exact fun h => ⟨hwhole.1 h.whole, hclosed.1 h.closed⟩
  · exact fun h => ⟨hwhole.2 h.whole, hclosed.2 h.closed⟩

/-- What a parameter list is split into. -/
structure SplitOff (types : List (List Char)) : Prop extends SideBySide types where
  bare : ∀ t ∈ types, Text.Bare t
  kept : ∀ t ∈ types, t ≠ [] ∧ t ≠ variadicMark

theorem SplitOff.single {types : List (List Char)} (h : SplitOff types) {t : List Char}
    (ht : t ∈ types) : SplitOff [t] where
  toSideBySide := h.toSideBySide.sublist (List.singleton_sublist.2 ht)
  bare := by simpa using h.bare t ht
  kept := by simpa using h.kept t ht

theorem splitOff_keptTypes {pieces : List (List Char)} (h : SideBySide pieces) :
    SplitOff (keptTypes pieces) where
  toSideBySide := (sideBySide_map_trim.2 h).sublist List.filter_sublist
  bare := by
    intro t ht
    obtain ⟨piece, -, rfl⟩ := List.mem_map.1 (List.mem_of_mem_filter ht)
    obtain ⟨-, -, -, -, -, hbare⟩ :=
      Text.trim_eq_iff.1 (rfl : Text.trim piece = Text.trim piece)
    exact hbare
  kept := by
    intro t ht
    simpa using List.of_mem_filter ht

theorem splitOff_parameterTypes (cs : List Char) : SplitOff (parameterTypes cs) := by
  by_cases h : ¬Text.Blank cs ∧ Text.trim cs ≠ noParameters
  · rw [parameterTypes_eq_keptTypes h.1 h.2]
    exact splitOff_keptTypes (sideBySide_commaPieces cs)
  · have hnone : parameterTypes cs = [] := by
      rw [← Text.trim_eq_nil_iff, ← not_or, not_not] at h
      simp [parameterTypes, h]
    rw [hnone]
    exact ⟨⟨by simp, List.Pairwise.nil⟩, by simp, by simp⟩

/-- The pieces of a printed list: each but the first has a margin. -/
def spaced : List (List Char) → List (List Char)
  | [] => []
  | piece :: pieces => piece :: pieces.map (' ' :: ·)

theorem intercalate_spaced (pieces : List (List Char)) :
    [','].intercalate (spaced pieces) = joined pieces := by
  induction pieces with
  | nil => rfl
  | cons piece pieces ih =>
    cases pieces with
    | nil => rfl
    | cons next pieces =>
      have hnext := intercalate_extendFirst ' ' (spaced (next :: pieces))
      rw [ih] at hnext
      rw [joined_cons_cons, ← hnext]
      simp [spaced, extendFirst, List.intercalate_cons_cons]

theorem map_trim_spaced {pieces : List (List Char)} (h : ∀ piece ∈ pieces, Text.Bare piece) :
    (spaced pieces).map Text.trim = pieces := by
  have hpieces : pieces.map Text.trim = pieces :=
    (List.map_congr_left fun piece hp => (h piece hp).trim).trans (List.map_id' pieces)
  cases pieces with
  | nil => rfl
  | cons piece pieces =>
    have hspace : ∀ cs, Text.trim (' ' :: cs) = Text.trim cs := fun _ => rfl
    simpa [spaced, hspace, Function.comp_def] using hpieces

theorem SplitOff.map_trim_commaPieces {types : List (List Char)} (h : SplitOff types)
    (hne : types ≠ []) : (commaPieces 0 (joined types)).map Text.trim = types := by
  have htrim := map_trim_spaced h.bare
  have hside : SideBySide (spaced types) := by
    rw [← sideBySide_map_trim, htrim]
    exact h.toSideBySide
  have hspaced : spaced types ≠ [] := by
    intro hnil
    rw [hnil] at htrim
    exact hne htrim.symm
  rw [← intercalate_spaced, (commaPieces_intercalate_iff hspaced).2 hside, htrim]

theorem SplitOff.parameterTypes_joined {types : List (List Char)} (h : SplitOff types)
    (hvoid : types ≠ [noParameters]) : parameterTypes (joined types) = types := by
  by_cases hne : types = []
  · rw [hne]
    rfl
  have hpieces := h.map_trim_commaPieces hne
  have htrim := map_trim_commaPieces_trim (joined types)
  rw [hpieces] at htrim
  -- A blank text and a lone `void` have one piece each, and neither is a type here.
  have hblank : ¬Text.Blank (joined types) := by
    intro hb
    rw [Text.trim_eq_nil_iff.2 hb] at htrim
    have hempty : types = [[]] := htrim.symm
    exact (h.kept [] (by simp [hempty])).1 rfl
  have hno : Text.trim (joined types) ≠ noParameters := by
    intro hn
    rw [hn] at htrim
    exact hvoid (htrim.symm.trans (by decide +kernel))
  rw [parameterTypes_eq_keptTypes hblank hno, keptTypes, hpieces, List.filter_eq_self]
  intro t ht
  simpa using h.kept t ht

theorem SplitOff.splitParameterList_intercalate_iff {types : List (List Char)}
    (h : SplitOff types) :
    splitParameterList (", ".intercalate (types.map String.ofList)) = types.map String.ofList ↔
      types.map String.ofList ≠ ["void"] := by
  have hinj : Function.Injective (List.map String.ofList) :=
    List.map_injective_iff.2 fun _ _ => String.ofList_injective
  have htext : (", ".intercalate (types.map String.ofList)).toList = joined types := by
    simp [joined, String.toList_intercalate, Function.comp_def]
  have hsplit : splitParameterList (", ".intercalate (types.map String.ofList)) =
      (parameterTypes (joined types)).map String.ofList := by
    rw [splitParameterList, htext]
  rw [hsplit]
  constructor
  · intro he hv
    have hlone : types = [noParameters] := hinj hv
    rw [hlone] at he
    exact absurd he (by decide +kernel)
  · intro hv
    have hvoid : types ≠ [noParameters] := by
      rintro rfl
      exact hv rfl
    rw [h.parameterTypes_joined hvoid]

/-- A list that is neither blank nor a lone `void` has one division, and its types are the pieces of
that without margins, those that are empty or mark a variable number of arguments left out. A type
split off a list divides no further, and the types of a list, printed with commas between them, are
split into themselves; only `void`, which alone stands for no parameters, is lost. -/
theorem splitParameterList_stable (p : String) :
    (¬Text.Blank p.toList → Text.trim p.toList ≠ "void".toList →
      (∃! pieces, Division (Text.trim p.toList) pieces) ∧
      ∀ pieces, Division (Text.trim p.toList) pieces → splitParameterList p =
        ((pieces.map Text.trim).filter fun t => t != [] && t != "...".toList).map String.ofList) ∧
    (∀ t ∈ splitParameterList p, splitParameterList t = [t] ↔ t ≠ "void") ∧
    (splitParameterList (", ".intercalate (splitParameterList p)) = splitParameterList p ↔
      splitParameterList p ≠ ["void"]) := by
  have htypes := splitOff_parameterTypes p.toList
  refine ⟨fun hblank hvoid => ?_, ?_, htypes.splitParameterList_intercalate_iff⟩
  · have hdivision : ∀ pieces, Division (Text.trim p.toList) pieces ↔
        pieces = commaPieces 0 (Text.trim p.toList) := fun pieces =>
      division_iff (mt Text.trim_eq_nil_iff.1 hblank)
    refine ⟨⟨_, (hdivision _).2 rfl, fun pieces => (hdivision pieces).1⟩, ?_⟩
    intro pieces h
    rw [(hdivision pieces).1 h, map_trim_commaPieces_trim, splitParameterList,
      parameterTypes_eq_keptTypes hblank hvoid]
    rfl
  · intro t ht
    obtain ⟨cs, hcs, rfl⟩ := List.mem_map.1 ht
    simpa using (htypes.single hcs).splitParameterList_intercalate_iff

/-- A list with brackets that have no partner, and with pieces that are no types. -/
theorem splitParameterList_stable_unpaired :
    ¬Text.Blank "a)>, ..., ,void, x<(i, j>".toList ∧
    Text.trim "a)>, ..., ,void, x<(i, j>".toList ≠ "void".toList ∧
    (∃! pieces, Division (Text.trim "a)>, ..., ,void, x<(i, j>".toList) pieces) ∧
    splitParameterList "a)>, ..., ,void, x<(i, j>" = ["a)>", "void", "x<(i, j>"] ∧
    splitParameterList "x<(i, j>" = ["x<(i, j>"] ∧
    splitParameterList "a)>, void, x<(i, j>" = ["a)>", "void", "x<(i, j>"] := by
  have hblank : ¬Text.Blank "a)>, ..., ,void, x<(i, j>".toList := by decide
  have hvoid : Text.trim "a)>, ..., ,void, x<(i, j>".toList ≠ "void".toList := by decide
  have hsplit : splitParameterList "a)>, ..., ,void, x<(i, j>" = ["a)>", "void", "x<(i, j>"] := by
    decide +kernel
  obtain ⟨hdivision, htypes, hjoined⟩ := splitParameterList_stable "a)>, ..., ,void, x<(i, j>"
  rw [hsplit] at htypes hjoined
  exact ⟨hblank, hvoid, (hdivision hblank hvoid).1, hsplit,
    (htypes "x<(i, j>" (by decide)).2 (by decide), hjoined.2 (by decide)⟩

/-- The type that is lost can be all that a list is split into. -/
example : splitParameterList "void," = ["void"] ∧ splitParameterList "void" = [] := by
  decide +kernel

end CSymbols.Spelling
