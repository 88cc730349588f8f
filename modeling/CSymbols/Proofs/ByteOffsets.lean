import CSymbols.Proofs.SpellingLayout

/-! Splitting by byte offsets: the scans remember where in the text something begins, and parts are
cut out between two such places. A cut inside of a character, or behind the end, stops the whole, as
does a count of open parentheses that would go below zero. Only the word in front of a parenthesis
is ever cut so, and just where a spelling of characters is. -/
namespace CSymbols.Spelling.Offset

/-- What stops a scan. -/
inductive Fault where
  /-- The word in front of a parenthesis cannot be cut off. -/
  | word
  /-- Some other part cannot be cut out. -/
  | slice
  /-- A parenthesis is closed while none is open. -/
  | underflow
  deriving DecidableEq, Repr

/-- The number of bytes of a text. -/
def size : List Char → Nat
  | [] => 0
  | c :: cs => c.utf8Size + size cs

/-- Cuts a text at an offset where a character begins or the text ends. -/
def cutAt? : Nat → List Char → Option (List Char × List Char)
  | 0, cs => some ([], cs)
  | _ + 1, [] => none
  | n + 1, c :: cs =>
    if c.utf8Size ≤ n + 1 then (cutAt? (n + 1 - c.utf8Size) cs).map fun r => (c :: r.1, r.2)
    else none

/-- The part of a text between two offsets. -/
def slice (text : List Char) (start stop : Nat) : Except Fault (List Char) :=
  match (cutAt? stop text).bind fun r => cutAt? start r.1 with
  | none => .error .slice
  | some (_, part) => .ok part

/-- The offset of the last character that has a property. -/
def lastOffset? (p : Char → Bool) (offset : Nat) : List Char → Option Nat
  | [] => none
  | c :: cs => (lastOffset? p (offset + c.utf8Size) cs).or (if p c then some offset else none)

/-- Whether a text ends, blanks apart, in a type operator. The word is what stands one byte behind
the offset of the last character that does not belong to a word. -/
def followsTypeOperator (before : List Char) : Except Fault Bool :=
  let text := Text.trimEnd before
  let start := ((lastOffset? (fun c => !Text.isWordChar c) 0 text).map (· + 1)).getD 0
  match slice text start (size text) with
  | .error _ => .error .word
  | .ok word => .ok (typeOperators.contains word)

/-- The offset of the parenthesis at which `depth` open ones are closed. -/
def closingFrom (depth offset : Nat) : List Char → Except Fault (Option Nat)
  | [] => .ok none
  | c :: cs =>
    if c == '(' then closingFrom (depth + 1) (offset + c.utf8Size) cs
    else if c == ')' then
      if depth == 0 then .error .underflow
      else if depth - 1 == 0 then .ok (some offset)
      else closingFrom (depth - 1) (offset + c.utf8Size) cs
    else closingFrom depth (offset + c.utf8Size) cs

/-- The offset of the partner of the parenthesis at an offset. -/
def matching (text : List Char) (opening : Nat) : Except Fault (Option Nat) := do
  closingFrom 0 opening (← slice text opening (size text))

/-- The offset of the parenthesis that opens the parameter list or a declarator group. Nothing in
front of the offset `skip` is looked at. -/
def openingFrom (text : List Char) (angle skip offset : Nat) :
    List Char → Except Fault (Option Nat)
  | [] => .ok none
  | c :: cs =>
    if offset < skip then openingFrom text angle skip (offset + c.utf8Size) cs
    else if c == '(' && angle == 0 then do
      if ← followsTypeOperator (← slice text 0 offset) then
        match ← matching text offset with
        | none => return none
        | some closing => openingFrom text angle (closing + 1) (offset + c.utf8Size) cs
      else return some offset
    else openingFrom text (angleAfter angle c) skip (offset + c.utf8Size) cs

@[simp] theorem size_append (front back : List Char) :
    size (front ++ back) = size front + size back := by
  induction front with
  | nil => simp [size]
  | cons c front ih =>
    rw [List.cons_append, size, size, ih]
    omega

@[simp] theorem size_singleton (c : Char) : size [c] = c.utf8Size := rfl

@[simp] theorem utf8Size_opening : '('.utf8Size = 1 := rfl

@[simp] theorem utf8Size_closing : ')'.utf8Size = 1 := rfl

theorem size_parenthesized (before inner : List Char) :
    size (before ++ '(' :: (inner ++ [')'])) = size before + 1 + size inner + 1 := by
  rw [size_append, size, size_append, size_singleton, utf8Size_opening, utf8Size_closing]
  omega

theorem cutAt?_cons {n : Nat} {c : Char} (h : c.utf8Size ≤ n) (cs : List Char) :
    cutAt? n (c :: cs) = (cutAt? (n - c.utf8Size) cs).map fun r => (c :: r.1, r.2) := by
  have hpos := c.utf8Size_pos
  obtain ⟨n, rfl⟩ : ∃ m, n = m + 1 := ⟨n - 1, by omega⟩
  rw [cutAt?, if_pos h]

theorem cutAt?_size (front back : List Char) :
    cutAt? (size front) (front ++ back) = some (front, back) := by
  induction front with
  | nil => simp [size, cutAt?]
  | cons c front ih =>
    rw [List.cons_append, cutAt?_cons (by simp [size])]
    simp [size, ih]

/-- Inside of a character there is no place to cut. -/
theorem cutAt?_inside {n : Nat} {c : Char} (hn : 0 < n) (hc : n < c.utf8Size)
    (front back : List Char) : cutAt? (size front + n) (front ++ c :: back) = none := by
  induction front with
  | nil =>
    obtain ⟨n, rfl⟩ : ∃ m, n = m + 1 := ⟨n - 1, by omega⟩
    have hle : ¬c.utf8Size ≤ n + 1 := by omega
    simp [size, cutAt?, hle]
  | cons d front ih =>
    have hrest : size (d :: front) + n - d.utf8Size = size front + n := by
      rw [size]
      omega
    rw [List.cons_append, cutAt?_cons (by rw [size]; omega), hrest, ih]
    rfl

theorem size_of_cutAt? {n : Nat} {text front back : List Char}
    (h : cutAt? n text = some (front, back)) : size front = n ∧ size text = n + size back := by
  fun_induction cutAt? n text generalizing front with
  | case1 cs =>
    obtain ⟨rfl, rfl⟩ : [] = front ∧ cs = back := by simpa using h
    exact ⟨rfl, by omega⟩
  | case2 => simp at h
  | case3 n c cs hc ih =>
    obtain ⟨⟨front', back'⟩, hr, he⟩ := Option.map_eq_some_iff.1 h
    obtain ⟨rfl, rfl⟩ : c :: front' = front ∧ back' = back := by simpa using he
    obtain ⟨hfront, htext⟩ := ih hr
    simp only [size]
    omega
  | case4 => simp at h

theorem slice_between (front part back : List Char) :
    slice (front ++ (part ++ back)) (size front) (size front + size part) = .ok part := by
  have hstop : cutAt? (size front + size part) (front ++ (part ++ back)) =
      some (front ++ part, back) := by
    rw [← size_append, ← List.append_assoc, cutAt?_size]
  simp [slice, hstop, cutAt?_size]

theorem slice_to (front back : List Char) : slice (front ++ back) 0 (size front) = .ok front := by
  have h := slice_between [] front back
  rwa [size, Nat.zero_add] at h

theorem slice_from (front back : List Char) :
    slice (front ++ back) (size front) (size (front ++ back)) = .ok back := by
  have h := slice_between front back []
  rwa [List.append_nil, ← size_append] at h

theorem size_of_slice {text part : List Char} {start stop : Nat}
    (h : slice text start stop = .ok part) : start + size part = stop ∧ stop ≤ size text := by
  unfold slice at h
  split at h
  · simp at h
  · next front part' hcut =>
    obtain rfl : part' = part := by simpa using h
    obtain ⟨⟨whole, rest⟩, hstop, hstart⟩ := Option.bind_eq_some_iff.1 hcut
    obtain ⟨hwhole, htext⟩ := size_of_cutAt? hstop
    have hpart : size whole = start + size part' := (size_of_cutAt? hstart).2
    exact ⟨by omega, by omega⟩

/-- Takes the parameter list out of a spelling. -/
def strip (text : List Char) : Except Fault (Option Stripped) := do
  match ← openingFrom text 0 0 0 text with
  | none => return none
  | some opening =>
    match ← matching text opening with
    | none => return none
    | some closing =>
      match _hinner : slice text (opening + 1) closing with
      | .error fault => .error fault
      | .ok inner =>
        let trailing ← slice text (closing + 1) (size text)
        if (Text.trimStart inner).head?.any isPointerMark then
          match ← strip inner with
          | none => return none
          | some s =>
            let before ← slice text 0 opening
            return some { s with returned := before ++ '(' :: s.returned ++ ')' :: trailing }
        else
          let before ← slice text 0 opening
          return some ⟨Text.trimEnd before, inner, trailing⟩
  termination_by size text
  decreasing_by
    have h := size_of_slice _hinner
    omega

/-- The pieces between the commas outside of brackets, without their margins. The first piece begins
at the offset `start`. -/
def piecesFrom (text : List Char) (depth start offset : Nat) :
    List Char → Except Fault (List (List Char))
  | [] => do return [Text.trim (← slice text start (size text))]
  | c :: cs =>
    if c == ',' && depth == 0 then do
      let piece ← slice text start offset
      let pieces ← piecesFrom text depth (offset + 1) (offset + c.utf8Size) cs
      return Text.trim piece :: pieces
    else piecesFrom text (depthAfter depth c) start (offset + c.utf8Size) cs

def parameterTypes (parameters : List Char) : Except Fault (List (List Char)) :=
  let text := Text.trim parameters
  if text == [] || text == noParameters then .ok []
  else do
    let pieces ← piecesFrom text 0 0 0 text
    return pieces.filter fun t => t != [] && t != variadicMark

def splitParameterList (parameters : String) : Except Fault (List String) := do
  return (← parameterTypes parameters.toList).map String.ofList

def splitFunctionType (spelling : String) : Except Fault (Option Signature) := do
  match ← strip (Text.trim spelling.toList) with
  | none => return none
  | some s =>
    let returned := returnType s
    if returned == [] then return none
    else
      let types ← parameterTypes s.parameters
      return some ⟨String.ofList returned, types.map String.ofList⟩

theorem lastOffset?_eq_none {p : Char → Bool} {text : List Char} (h : ∀ c ∈ text, p c = false)
    (offset : Nat) : lastOffset? p offset text = none := by
  induction text generalizing offset with
  | nil => rfl
  | cons c text ih =>
    rw [lastOffset?, ih fun c hc => h c (List.mem_cons_of_mem _ hc)]
    simp [h c List.mem_cons_self]

theorem lastOffset?_append {p : Char → Bool} {c : Char} {back : List Char} (hc : p c = true)
    (h : ∀ c ∈ back, p c = false) (front : List Char) (offset : Nat) :
    lastOffset? p offset (front ++ c :: back) = some (offset + size front) := by
  induction front generalizing offset with
  | nil =>
    rw [List.nil_append, lastOffset?, lastOffset?_eq_none h]
    simp [hc, size]
  | cons d front ih =>
    rw [List.cons_append, lastOffset?, ih, size]
    simp [Nat.add_assoc]

theorem isWordChar_of_mem_lastWord {text : List Char} {c : Char} (h : c ∈ lastWord text) :
    Text.isWordChar c = true :=
  List.mem_rtakeWhile_imp h

/-- A text ends, blanks apart, in the last word with the character in front of it. -/
theorem exists_trimEnd_of_edge? {text : List Char} {c : Char} (h : edge? text = some c) :
    Text.isWordChar c = false ∧ ∃ front, Text.trimEnd text = front ++ c :: lastWord text := by
  obtain ⟨front, hfront⟩ := List.getLast?_eq_some_iff.1 h
  have hne : (Text.trimEnd text).rdropWhile Text.isWordChar ≠ [] := by simp [hfront]
  have hlast := List.rdropWhile_last_not _ _ hne
  have hsplit : _ ++ lastWord text = Text.trimEnd text := List.rdropWhile_append_rtakeWhile
  refine ⟨?_, front, ?_⟩
  · simpa [hfront] using hlast
  · rw [← hsplit, hfront]
    simp

theorem trimEnd_eq_lastWord {text : List Char} (h : edge? text = none) :
    Text.trimEnd text = lastWord text := by
  have hnil : (Text.trimEnd text).rdropWhile Text.isWordChar = [] := List.getLast?_eq_none_iff.1 h
  have hsplit : _ ++ lastWord text = Text.trimEnd text := List.rdropWhile_append_rtakeWhile
  rw [← hsplit, hnil, List.nil_append]

theorem followsTypeOperator_wide {before : List Char} {c : Char} (he : edge? before = some c)
    (hc : Wide c) : followsTypeOperator before = .error .word := by
  obtain ⟨hword, front, hfront⟩ := exists_trimEnd_of_edge? he
  have hoffset : lastOffset? (fun c => !Text.isWordChar c) 0 (Text.trimEnd before) =
      some (size front) := by
    rw [hfront, lastOffset?_append (by simp [hword])
      fun d hd => by simp [isWordChar_of_mem_lastWord hd]]
    simp
  have hslice : slice (Text.trimEnd before) (size front + 1) (size (Text.trimEnd before)) =
      .error .slice := by
    have hwhole := cutAt?_size (Text.trimEnd before) []
    rw [List.append_nil] at hwhole
    have hinside := cutAt?_inside (Nat.one_pos) hc front (lastWord before)
    rw [← hfront] at hinside
    simp [slice, hwhole, hinside]
  simp [followsTypeOperator, hoffset, hslice]

theorem followsTypeOperator_narrow {before : List Char} (he : ∀ c ∈ edge? before, ¬Wide c) :
    followsTypeOperator before = .ok (decide (lastWord before ∈ typeOperators)) := by
  have hword : ∀ d ∈ lastWord before, (!Text.isWordChar d) = false :=
    fun d hd => by simp [isWordChar_of_mem_lastWord hd]
  have hslice : slice (Text.trimEnd before)
      (((lastOffset? (fun c => !Text.isWordChar c) 0 (Text.trimEnd before)).map (· + 1)).getD 0)
      (size (Text.trimEnd before)) = .ok (lastWord before) := by
    cases hedge : edge? before with
    | none =>
      rw [trimEnd_eq_lastWord hedge, lastOffset?_eq_none hword]
      exact slice_from [] _
    | some c =>
      obtain ⟨hc, front, hfront⟩ := exists_trimEnd_of_edge? hedge
      have hone : c.utf8Size = 1 := by
        have hpos := c.utf8Size_pos
        have hnarrow := he c hedge
        unfold Wide at hnarrow
        omega
      rw [hfront, lastOffset?_append (by simp [hc]) hword]
      have hfrom := slice_from (front ++ [c]) (lastWord before)
      rw [size_append, size_singleton, hone, List.append_assoc] at hfrom
      simpa using hfrom
  simp [followsTypeOperator, hslice]

/-- No parenthesis is closed while none is open: the search begins at one that opens. -/
theorem closingFrom_succ (depth offset : Nat) (cs : List Char) : closingFrom (depth + 1) offset cs =
    .ok ((closingParenthesis depth cs).map fun r => offset + size r.1) := by
  induction cs generalizing depth offset with
  | nil => rfl
  | cons c cs ih =>
    by_cases ho : c = '('
    · subst ho
      rw [closingFrom, if_pos (by decide), ih, closingParenthesis_opened]
      simp [Function.comp_def, size, Nat.add_assoc]
    · by_cases hc : c = ')'
      · subst hc
        cases depth with
        | zero => simp [closingFrom, closingParenthesis_found, size]
        | succ depth =>
          rw [closingParenthesis_closed]
          simp [closingFrom, ih, Function.comp_def, size, Nat.add_assoc]
      · rw [closingFrom, if_neg (by simpa using ho), if_neg (by simpa using hc), ih,
          closingParenthesis_char ho hc]
        simp [Function.comp_def, size, Nat.add_assoc]

theorem matching_eq (before cs : List Char) : matching (before ++ '(' :: cs) (size before) =
    .ok ((closingParenthesis 0 cs).map fun r => size before + 1 + size r.1) := by
  unfold matching
  rw [slice_from]
  show closingFrom 0 (size before) ('(' :: cs) = _
  rw [closingFrom, if_pos (by decide), closingFrom_succ]
  rfl

/-- What stands in front of the offset `skip` is passed over. -/
theorem openingFrom_skip (text skipped : List Char) (angle offset : Nat) (cs : List Char) :
    openingFrom text angle (offset + size skipped) offset (skipped ++ cs) =
      openingFrom text angle (offset + size skipped) (offset + size skipped) cs := by
  induction skipped generalizing offset with
  | nil => rfl
  | cons c skipped ih =>
    have hpos := c.utf8Size_pos
    have hstop : offset + size (c :: skipped) = offset + c.utf8Size + size skipped := by
      rw [size]
      omega
    rw [List.cons_append, openingFrom, if_pos (by omega), hstop, ih]

/-- The offset of what a search for characters has found. -/
def located (r : Except Spelling.Fault (Option (List Char × List Char))) :
    Except Fault (Option Nat) :=
  match r with
  | .error _ => .error .word
  | .ok found => .ok (found.map fun r => size r.1)

theorem openingFrom_eq (passed cs : List Char) (angle skip : Nat) (hskip : skip ≤ size passed) :
    openingFrom (passed ++ cs) angle skip (size passed) cs =
      located (openingParenthesis angle 0 passed.reverse cs) := by
  -- An operand is passed in one step, so the induction is on the length of what is left.
  induction hn : cs.length using Nat.strong_induction_on generalizing passed cs angle skip with
  | _ n ih =>
  cases cs with
  | nil => rfl
  | cons c cs =>
    rw [List.length_cons] at hn
    rw [openingFrom, if_neg (by omega)]
    by_cases hc : c = '(' ∧ angle = 0
    · obtain ⟨rfl, rfl⟩ := hc
      rw [if_pos (by decide), slice_to]
      show (followsTypeOperator passed >>= _) = _
      by_cases hw : ∃ c ∈ edge? passed, Wide c
      · obtain ⟨c, he, hw⟩ := hw
        rw [followsTypeOperator_wide he hw, openingParenthesis_wide he hw]
        rfl
      · have he : ∀ c ∈ edge? passed, ¬Wide c := fun c hc hwc => hw ⟨c, hc, hwc⟩
        rw [followsTypeOperator_narrow he]
        by_cases ho : lastWord passed ∈ typeOperators
        · rw [openingParenthesis_operator he ho, decide_eq_true ho]
          show (matching (passed ++ '(' :: cs) (size passed) >>= _) = _
          rw [matching_eq]
          cases hclose : closingParenthesis 0 cs with
          | none => rfl
          | some r =>
            obtain ⟨inner, rest⟩ := r
            obtain ⟨-, rfl⟩ := closingParenthesis_eq_some_iff.1 hclose
            have hlt : rest.length < n := by
              simp only [List.length_append, List.length_cons] at hn
              omega
            have hskip := openingFrom_skip (passed ++ '(' :: (inner ++ ')' :: rest))
              (inner ++ [')']) 0 (size passed + 1) rest
            have hrest := ih rest.length hlt (passed ++ '(' :: (inner ++ [')'])) rest 0
              (size passed + 1 + size inner + 1) (size_parenthesized passed inner).ge rfl
            show openingFrom _ 0 (size passed + 1 + size inner + 1) (size passed + 1) _ = _
            rw [size_append, size_singleton, utf8Size_closing, ← Nat.add_assoc] at hskip
            rw [size_parenthesized] at hrest
            simp only [List.append_assoc, List.cons_append, List.nil_append] at hskip hrest
            rw [hskip, hrest]
        · rw [openingParenthesis_found he ho, decide_eq_false ho]
          rfl
    · have hangle : ¬(c == '(' && angle == 0) = true := by simpa using hc
      rw [if_neg hangle, openingParenthesis_char _ _ _ hc]
      have hrest := ih cs.length (by omega) (passed ++ [c]) cs (angleAfter angle c) skip
        (by rw [size_append]; omega) rfl
      simpa using hrest

/-- What stops a search for characters is a word that cannot be cut off. -/
def sliced {α : Type} (r : Except Spelling.Fault α) : Except Fault α := r.mapError fun _ => .word

theorem opening_eq (text : List Char) :
    openingFrom text 0 0 0 text = located (openingParenthesis 0 0 [] text) :=
  openingFrom_eq [] text 0 0 (Nat.zero_le _)

/-- One level of a spelling: all that is cut out of it at the two parentheses can be. -/
theorem strip_of_opening {text before rest : List Char}
    (ho : openingParenthesis 0 0 [] text = .ok (some (before, rest)))
    (ht : text = before ++ '(' :: rest) : strip text =
      match closingParenthesis 0 rest with
      | none => .ok none
      | some (inner, trailing) =>
        if (Text.trimStart inner).head?.any isPointerMark then
          (strip inner).map fun s => s.map fun s =>
            { s with returned := before ++ '(' :: s.returned ++ ')' :: trailing }
        else .ok (some ⟨Text.trimEnd before, inner, trailing⟩) := by
  have hopen : openingFrom text 0 0 0 text = .ok (some (size before)) := by
    rw [opening_eq, ho]
    rfl
  have hclose : matching text (size before) =
      .ok ((closingParenthesis 0 rest).map fun r => size before + 1 + size r.1) := by
    rw [ht, matching_eq]
  rw [strip]
  simp only [hopen, hclose, bind, Except.bind]
  cases hpartner : closingParenthesis 0 rest with
  | none => rfl
  | some r =>
    obtain ⟨inner, trailing⟩ := r
    obtain ⟨-, rfl⟩ := closingParenthesis_eq_some_iff.1 hpartner
    have hbefore : slice text 0 (size before) = .ok before := by rw [ht, slice_to]
    have hinner : slice text (size before + 1) (size before + 1 + size inner) = .ok inner := by
      have h := slice_between (before ++ ['(']) inner (')' :: trailing)
      simpa [ht] using h
    have htrailing : slice text (size before + 1 + size inner + 1) (size text) =
        .ok trailing := by
      have h := slice_from (before ++ '(' :: (inner ++ [')'])) trailing
      rw [size_parenthesized] at h
      simpa [ht] using h
    simp only [Option.map_some]
    split
    · simp_all
    · rename_i inner' hcut
      obtain rfl : inner' = inner := by simpa [hinner, eq_comm] using hcut
      simp only [htrailing, hbefore]
      congr 1
      cases strip inner' with
      | error fault => rfl
      | ok s => cases s <;> rfl

theorem strip_eq (text : List Char) : strip text = sliced (Spelling.strip text) := by
  fun_induction Spelling.strip text with
  | case1 text fault ho =>
    rw [strip, opening_eq, ho]
    rfl
  | case2 text ho =>
    rw [strip, opening_eq, ho]
    rfl
  | case3 text before rest ho hc =>
    rw [strip_of_opening ho (opens_of_openingParenthesis ho).2, hc]
    rfl
  | case4 text before rest ho inner trailing hc hm fault hs ih =>
    rw [strip_of_opening ho (opens_of_openingParenthesis ho).2, hc]
    simp only [hm, if_true, ih, hs]
    rfl
  | case5 text before rest ho inner trailing hc hm hs ih =>
    rw [strip_of_opening ho (opens_of_openingParenthesis ho).2, hc]
    simp only [hm, if_true, ih, hs]
    rfl
  | case6 text before rest ho inner trailing hc hm s hs ih =>
    rw [strip_of_opening ho (opens_of_openingParenthesis ho).2, hc]
    simp only [hm, if_true, ih, hs]
    rfl
  | case7 text before rest ho inner trailing hc hm =>
    rw [strip_of_opening ho (opens_of_openingParenthesis ho).2, hc]
    simp only [hm]
    rfl

/-- The pieces are cut out at commas, and these are characters of one byte. -/
theorem piecesFrom_eq (done piece cs : List Char) (depth : Nat) :
    piecesFrom (done ++ (piece ++ cs)) depth (size done) (size done + size piece) cs =
      .ok ((piece.foldr extendFirst (commaPieces depth cs)).map Text.trim) := by
  induction cs generalizing done piece depth with
  | nil =>
    rw [piecesFrom, List.append_nil, slice_from, commaPieces, foldr_extendFirst]
    simp [bind, Except.bind, pure, Except.pure]
  | cons c cs ih =>
    by_cases hc : c = ',' ∧ depth = 0
    · obtain ⟨rfl, rfl⟩ := hc
      have hrest := ih (done ++ (piece ++ [','])) [] 0
      have hsize : size (done ++ (piece ++ [','])) = size done + size piece + 1 := by
        rw [size_append, size_append, ← Nat.add_assoc]
        rfl
      simp only [hsize, List.append_assoc, List.cons_append, List.nil_append, size, Nat.add_zero,
        List.foldr_nil] at hrest
      rw [piecesFrom, if_pos (by decide), slice_between, commaPieces_comma, foldr_extendFirst]
      show (piecesFrom _ 0 (size done + size piece + 1) (size done + size piece + 1) cs >>= _) = _
      rw [hrest, List.append_nil]
      rfl
    · have hrest := ih done (piece ++ [c]) (depthAfter depth c)
      have hcond : ¬(c == ',' && depth == 0) = true := by simpa using hc
      rw [piecesFrom, if_neg hcond, commaPieces_char hc]
      simpa [Nat.add_assoc] using hrest

theorem parameterTypes_eq (parameters : List Char) :
    parameterTypes parameters = .ok (Spelling.parameterTypes parameters) := by
  unfold parameterTypes Spelling.parameterTypes
  have hpieces := piecesFrom_eq [] [] (Text.trim parameters) 0
  simp only [size, List.nil_append, Nat.add_zero, List.foldr_nil] at hpieces
  simp only [hpieces]
  split <;> rfl

/-- Every part of a parameter list can be cut out. -/
theorem splitParameterList_eq (parameters : String) :
    splitParameterList parameters = .ok (Spelling.splitParameterList parameters) := by
  unfold splitParameterList
  rw [parameterTypes_eq]
  rfl

/-- Splitting by offsets is splitting the characters. -/
theorem splitFunctionType_eq (q : String) :
    splitFunctionType q = sliced (Spelling.splitFunctionType q) := by
  unfold splitFunctionType Spelling.splitFunctionType signature
  rw [strip_eq]
  cases Spelling.strip (Text.trim q.toList) with
  | error fault => rfl
  | ok s =>
    cases s with
    | none => rfl
    | some s =>
      show (if returnType s == [] then _ else parameterTypes s.parameters >>= _) =
        sliced (if _ then _ else _)
      rw [parameterTypes_eq]
      split <;> rfl

end CSymbols.Spelling.Offset
