import CSymbols.Proofs.ParameterPieces

/-! Bracket depth along a parameter list. A piece reaches as far as no comma stands at depth zero,
whether the brackets are nested or not; behind such a comma the count begins anew. -/
namespace CSymbols.Spelling

/-- The depth behind a text. -/
def depthBehind (depth : Nat) (cs : List Char) : Nat := cs.foldl depthAfter depth

/-- No comma of a text that begins at this depth divides it. -/
def Whole (depth : Nat) (cs : List Char) : Prop :=
  ∀ front back, cs = front ++ ',' :: back → depthBehind depth front ≠ 0

@[simp] theorem depthAfter_opening (depth : Nat) : depthAfter depth '(' = depth + 1 := rfl

@[simp] theorem depthAfter_closing (depth : Nat) : depthAfter depth ')' = depth - 1 := rfl

@[simp] theorem depthBehind_nil (depth : Nat) : depthBehind depth [] = depth := rfl

@[simp] theorem depthBehind_cons (depth : Nat) (c : Char) (cs : List Char) :
    depthBehind depth (c :: cs) = depthBehind (depthAfter depth c) cs := rfl

@[simp] theorem depthBehind_append (depth : Nat) (front back : List Char) :
    depthBehind depth (front ++ back) = depthBehind (depthBehind depth front) back :=
  List.foldl_append

@[simp] theorem whole_nil (depth : Nat) : Whole depth [] := by
  intro front back h
  simp at h

@[simp] theorem whole_cons {depth : Nat} {c : Char} {cs : List Char} :
    Whole depth (c :: cs) ↔ ¬(c = ',' ∧ depth = 0) ∧ Whole (depthAfter depth c) cs := by
  constructor
  · intro h
    refine ⟨?_, fun front back he => h (c :: front) back (by rw [he]; rfl)⟩
    rintro ⟨rfl, rfl⟩
    exact h [] cs rfl rfl
  · rintro ⟨hc, h⟩ front back he
    cases front with
    | nil =>
      obtain ⟨rfl, rfl⟩ : c = ',' ∧ cs = back := by simpa using he
      exact fun hzero => hc ⟨rfl, hzero⟩
    | cons d front =>
      obtain ⟨rfl, rfl⟩ : c = d ∧ cs = front ++ ',' :: back := by simpa using he
      exact h front back rfl

@[simp] theorem whole_append {depth : Nat} {front back : List Char} :
    Whole depth (front ++ back) ↔ Whole depth front ∧ Whole (depthBehind depth front) back := by
  induction front generalizing depth with
  | nil => simp
  | cons c front ih => simp [ih, and_assoc]

theorem Whole.commaPieces {depth : Nat} {cs : List Char} (h : Whole depth cs)
    (rest : List Char) : Spelling.commaPieces depth (cs ++ rest) =
      cs.foldr extendFirst (Spelling.commaPieces (depthBehind depth cs) rest) := by
  induction cs generalizing depth with
  | nil => rfl
  | cons c cs ih =>
    obtain ⟨hc, hcs⟩ := whole_cons.1 h
    rw [List.cons_append, commaPieces_char hc, ih hcs]
    rfl

/-- The first piece of a text reaches to a comma at depth zero or to the end, and the others are
those of what follows. -/
def FirstPiece (depth : Nat) (cs piece : List Char) (pieces : List (List Char)) : Prop :=
  Whole depth piece ∧ ((cs = piece ∧ pieces = []) ∨ ∃ rest, cs = piece ++ ',' :: rest ∧
    depthBehind depth piece = 0 ∧ pieces = commaPieces 0 rest)

theorem FirstPiece.cons {depth : Nat} {c : Char} {cs piece : List Char}
    {pieces : List (List Char)} (hc : ¬(c = ',' ∧ depth = 0))
    (h : FirstPiece (depthAfter depth c) cs piece pieces) :
    FirstPiece depth (c :: cs) (c :: piece) pieces := by
  obtain ⟨hw, ⟨rfl, hp⟩ | ⟨rest, rfl, hzero, hp⟩⟩ := h
  · exact ⟨whole_cons.2 ⟨hc, hw⟩, .inl ⟨rfl, hp⟩⟩
  · exact ⟨whole_cons.2 ⟨hc, hw⟩, .inr ⟨rest, rfl, hzero, hp⟩⟩

theorem exists_firstPiece (depth : Nat) (cs : List Char) :
    ∃ piece pieces, commaPieces depth cs = piece :: pieces ∧ FirstPiece depth cs piece pieces := by
  induction cs generalizing depth with
  | nil => exact ⟨[], [], rfl, whole_nil depth, .inl ⟨rfl, rfl⟩⟩
  | cons c cs ih =>
    by_cases hc : c = ',' ∧ depth = 0
    · obtain ⟨rfl, rfl⟩ := hc
      exact ⟨[], _, commaPieces_comma cs, whole_nil 0, .inr ⟨cs, rfl, rfl, rfl⟩⟩
    · obtain ⟨piece, pieces, hp, hfirst⟩ := ih (depthAfter depth c)
      refine ⟨c :: piece, pieces, ?_, hfirst.cons hc⟩
      rw [commaPieces_char hc, hp, extendFirst]

theorem commaPieces_eq_cons_iff {depth : Nat} {cs piece : List Char}
    {pieces : List (List Char)} :
    commaPieces depth cs = piece :: pieces ↔ FirstPiece depth cs piece pieces := by
  constructor
  · intro h
    obtain ⟨p, ps, hp, hfirst⟩ := exists_firstPiece depth cs
    obtain ⟨rfl, rfl⟩ : p = piece ∧ ps = pieces := by simpa [hp] using h
    exact hfirst
  · rintro ⟨hw, ⟨rfl, rfl⟩ | ⟨rest, rfl, hzero, rfl⟩⟩
    · have h := hw.commaPieces []
      rwa [List.append_nil, commaPieces, foldr_extendFirst, List.append_nil] at h
    · rw [hw.commaPieces, hzero, commaPieces_comma, foldr_extendFirst, List.append_nil]

/-- The first piece behind a text that does not end it. -/
theorem firstPiece_append {depth : Nat} {front cs piece : List Char}
    {pieces : List (List Char)} : FirstPiece depth (front ++ cs) (front ++ piece) pieces ↔
      Whole depth front ∧ FirstPiece (depthBehind depth front) cs piece pieces := by
  unfold FirstPiece
  simp only [whole_append, List.append_cancel_left_eq, List.append_assoc, depthBehind_append,
    and_assoc]

theorem length_trimEnd_le (cs : List Char) : (Text.trimEnd cs).length ≤ cs.length := by
  obtain ⟨blanks, -, hcs, -⟩ := Text.exists_trimEnd cs
  nth_rewrite 2 [hcs]
  simp

/-- A comma is not blank, so a piece that goes on behind it is another one, margins apart. -/
theorem trimEnd_ne_of_comma (piece rest : List Char) :
    Text.trimEnd (piece ++ ',' :: rest) ≠ Text.trimEnd piece := by
  intro h
  have hlength := congrArg List.length h
  rw [Text.trimEnd_append_cons (by decide)] at hlength
  have hle := length_trimEnd_le piece
  simp only [List.length_append, List.length_cons] at hlength
  omega

/-- The first piece of a text is known, with all that follow, from what it is without its margin. -/
theorem FirstPiece.eq_of_trimEnd {depth depth' : Nat} {cs piece piece' : List Char}
    {pieces pieces' : List (List Char)} (h : FirstPiece depth cs piece pieces)
    (h' : FirstPiece depth' cs piece' pieces') (he : Text.trimEnd piece = Text.trimEnd piece') :
    piece = piece' ∧ pieces = pieces' := by
  obtain ⟨-, ⟨rfl, rfl⟩ | ⟨rest, rfl, -, rfl⟩⟩ := h
  · obtain ⟨-, ⟨rfl, rfl⟩ | ⟨rest', rfl, -, rfl⟩⟩ := h'
    · exact ⟨rfl, rfl⟩
    · exact absurd he (trimEnd_ne_of_comma piece' rest')
  · obtain ⟨-, ⟨rfl, rfl⟩ | ⟨rest', hcs, -, rfl⟩⟩ := h'
    · exact absurd he.symm (trimEnd_ne_of_comma piece rest)
    · rcases List.append_eq_append_iff.1 hcs with ⟨middle, rfl, hrest⟩ | ⟨middle, rfl, hrest⟩
      · cases middle with
        | nil =>
          obtain rfl : rest = rest' := by simpa using hrest
          exact ⟨by simp, rfl⟩
        | cons c middle =>
          obtain ⟨rfl, rfl⟩ : ',' = c ∧ rest = middle ++ ',' :: rest' := by simpa using hrest
          exact absurd he.symm (trimEnd_ne_of_comma piece middle)
      · cases middle with
        | nil =>
          obtain rfl : rest' = rest := by simpa using hrest
          exact ⟨by simp, rfl⟩
        | cons c middle =>
          obtain ⟨rfl, rfl⟩ : ',' = c ∧ rest' = middle ++ ',' :: rest := by simpa using hrest
          exact absurd he (trimEnd_ne_of_comma piece' middle)

/-- What stands in front of a place decides the pieces up to there. -/
theorem exists_commaPieces_append (depth : Nat) (front : List Char) :
    ∃ (pieces : List (List Char)) (last : List Char), ∀ back, commaPieces depth (front ++ back) =
      pieces ++ last.foldr extendFirst (commaPieces (depthBehind depth front) back) := by
  induction front generalizing depth with
  | nil => exact ⟨[], [], fun back => rfl⟩
  | cons c front ih =>
    obtain ⟨pieces, last, h⟩ := ih (depthAfter depth c)
    by_cases hc : c = ',' ∧ depth = 0
    · obtain ⟨rfl, rfl⟩ := hc
      refine ⟨[] :: pieces, last, fun back => ?_⟩
      rw [List.cons_append, commaPieces_comma]
      exact congrArg _ (h back)
    · cases pieces with
      | nil =>
        refine ⟨[], c :: last, fun back => ?_⟩
        rw [List.cons_append, commaPieces_char hc, h]
        rfl
      | cons p pieces =>
        refine ⟨(c :: p) :: pieces, last, fun back => ?_⟩
        rw [List.cons_append, commaPieces_char hc, h]
        rfl

/-- Inside of brackets a nested text is not divided, and leaves the depth as it was. -/
theorem Nested.whole {cs : List Char} (h : Nested cs) (depth : Nat) :
    Whole (depth + 1) cs ∧ depthBehind (depth + 1) cs = depth + 1 := by
  induction h generalizing depth with
  | nil => exact ⟨whole_nil _, rfl⟩
  | char hc _ ih => simp [depthAfter_char hc, ih depth]
  | group hp _ _ ihi ih =>
    obtain ⟨hopening, hclosing, -⟩ := depthAfter_bracket hp (depth + 1)
    simp [hopening, hclosing, ihi (depth + 1), ih depth]

theorem plain_of_isBlank {c : Char} (h : Text.isBlank c = true) : ¬IsBracket c ∧ c ≠ ',' := by
  constructor
  · rintro ⟨pair, hp, hc⟩
    simp only [brackets, List.mem_cons, List.not_mem_nil, or_false] at hp
    rcases hp with rfl | rfl | rfl <;> rcases hc with rfl | rfl <;> exact absurd h (by decide)
  · rintro rfl
    exact absurd h (by decide)

theorem commaPieces_blank {blanks : List Char} (h : Text.Blank blanks) (depth : Nat)
    (cs : List Char) :
    commaPieces depth (blanks ++ cs) = blanks.foldr extendFirst (commaPieces depth cs) :=
  (undivided_of_plain fun c hc => plain_of_isBlank (h c hc)).commaPieces depth cs

theorem map_trim_foldr_extendFirst {blanks : List Char} (h : Text.Blank blanks)
    {pieces : List (List Char)} (hne : pieces ≠ []) :
    (blanks.foldr extendFirst pieces).map Text.trim = pieces.map Text.trim := by
  obtain ⟨p, pieces, rfl⟩ := List.exists_cons_of_ne_nil hne
  have htrim : Text.trim (blanks ++ p) = Text.trim p := by
    unfold Text.trim
    rw [Text.trimStart_append h]
  rw [foldr_extendFirst, List.map_cons, List.map_cons, htrim]

/-- The margins of a list are margins of its first and its last piece. -/
theorem map_trim_commaPieces_trim (cs : List Char) :
    (commaPieces 0 (Text.trim cs)).map Text.trim = (commaPieces 0 cs).map Text.trim := by
  obtain ⟨front, back, hfront, hback, hcs, -⟩ :=
    Text.trim_eq_iff.1 (rfl : Text.trim cs = Text.trim cs)
  generalize Text.trim cs = text at hcs
  obtain ⟨pieces, last, happend⟩ := exists_commaPieces_append 0 text
  have htext : commaPieces 0 text = pieces ++ [last] := by
    have h := happend []
    rwa [List.append_nil, commaPieces, foldr_extendFirst, List.append_nil] at h
  have hrest : commaPieces 0 (text ++ back) = pieces ++ [last ++ back] := by
    have hblank := commaPieces_blank hback (depthBehind 0 text) []
    rw [List.append_nil, commaPieces, foldr_extendFirst, List.append_nil] at hblank
    rw [happend, hblank, foldr_extendFirst]
  rw [hcs, List.append_assoc, commaPieces_blank hfront, hrest,
    map_trim_foldr_extendFirst hfront (by simp), htext]
  simp [Text.trim_append_blank hback]

/-- The types among some pieces. -/
def keptTypes (pieces : List (List Char)) : List (List Char) :=
  (pieces.map Text.trim).filter fun t => t != [] && t != variadicMark

theorem parameterTypes_eq_keptTypes {cs : List Char} (hb : ¬Text.Blank cs)
    (hv : Text.trim cs ≠ noParameters) : parameterTypes cs = keptTypes (commaPieces 0 cs) := by
  have hnil : Text.trim cs ≠ [] := mt Text.trim_eq_nil_iff.1 hb
  unfold parameterTypes keptTypes
  simp only [beq_iff_eq, hnil, hv, Bool.or_eq_true, or_self, if_false, map_trim_commaPieces_trim]

end CSymbols.Spelling
