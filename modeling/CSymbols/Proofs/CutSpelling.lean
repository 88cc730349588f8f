import CSymbols.Proofs.Parentheses
import CSymbols.Spelling.Signature
import Mathlib.Data.List.DropRight

/-! Spellings that cannot be split because a word in them is cut off inside a character. -/
namespace CSymbols.Spelling

def Wide (c : Char) : Prop := 1 < c.utf8Size

/-- The word in which a text ends, blanks apart; it may be empty. -/
def lastWord (text : List Char) : List Char := (Text.trimEnd text).rtakeWhile Text.isWordChar

/-- The character in front of the last word. -/
def edge? (text : List Char) : Option Char :=
  ((Text.trimEnd text).rdropWhile Text.isWordChar).getLast?

theorem edge?_eq_head? (text : List Char) : edge? text =
    ((text.reverse.dropWhile Text.isBlank).dropWhile Text.isWordChar).head? := by
  unfold edge? Text.trimEnd
  rw [List.rdropWhile, List.reverse_reverse, List.getLast?_reverse]

theorem lastWord_eq_reverse (text : List Char) : lastWord text =
    ((text.reverse.dropWhile Text.isBlank).takeWhile Text.isWordChar).reverse := by
  unfold lastWord Text.trimEnd
  rw [List.rtakeWhile, List.reverse_reverse]

theorem endsInTypeOperator_wide {text : List Char} {c : Char} (he : edge? text = some c)
    (hc : Wide c) : endsInTypeOperator text.reverse = .error (.cutInside c) := by
  rw [edge?_eq_head?] at he
  obtain ⟨cs, hcs⟩ := List.head?_eq_some_iff.1 he
  have hn : ¬c.utf8Size = 1 := by unfold Wide at hc; omega
  simp [endsInTypeOperator, hcs, hn]

theorem endsInTypeOperator_narrow {text : List Char} (he : ∀ c ∈ edge? text, ¬Wide c) :
    endsInTypeOperator text.reverse = .ok (decide (lastWord text ∈ typeOperators)) := by
  rw [edge?_eq_head?] at he
  rw [lastWord_eq_reverse]
  unfold endsInTypeOperator
  cases hd : (text.reverse.dropWhile Text.isBlank).dropWhile Text.isWordChar with
  | nil => simp [hd]
  | cons c cs =>
    have hc : ¬Wide c := he c (by simp [hd])
    have hn : c.utf8Size = 1 := by
      have := c.utf8Size_pos
      unfold Wide at hc
      omega
    simp [hd, hn]

def angleAfter (angle : Nat) (c : Char) : Nat :=
  if c == '<' then angle + 1 else if c == '>' then angle - 1 else angle

/-- A text without a parenthesis that opens a parameter list, and the number of angle brackets left
open in it. The operand of a type operator is passed over whatever brackets it holds. -/
inductive Passed : List Char → Nat → Prop
  | nil : Passed [] 0
  | char {text : List Char} {angle : Nat} {c : Char} (h : Passed text angle)
      (hc : ¬(c = '(' ∧ angle = 0)) : Passed (text ++ [c]) (angleAfter angle c)
  | operand {text inner : List Char} (h : Passed text 0) (he : ∀ c ∈ edge? text, ¬Wide c)
      (ho : lastWord text ∈ typeOperators) (hi : Balanced inner) :
      Passed (text ++ '(' :: (inner ++ [')'])) 0

theorem openingParenthesis_char (angle : Nat) (reversed cs : List Char) {c : Char}
    (hc : ¬(c = '(' ∧ angle = 0)) : openingParenthesis angle 0 reversed (c :: cs) =
      openingParenthesis (angleAfter angle c) 0 (c :: reversed) cs := by
  rw [openingParenthesis.eq_def]
  simp only [Bool.and_eq_true, beq_iff_eq, if_neg hc, angleAfter]

theorem openingParenthesis_wide {text : List Char} {c : Char} (he : edge? text = some c)
    (hc : Wide c) (cs : List Char) :
    openingParenthesis 0 0 text.reverse ('(' :: cs) = .error (.cutInside c) := by
  rw [openingParenthesis.eq_def]
  simp [endsInTypeOperator_wide he hc]

theorem openingParenthesis_found {text : List Char} (he : ∀ c ∈ edge? text, ¬Wide c)
    (ho : lastWord text ∉ typeOperators) (cs : List Char) :
    openingParenthesis 0 0 text.reverse ('(' :: cs) = .ok (some (text, cs)) := by
  rw [openingParenthesis.eq_def]
  simp [endsInTypeOperator_narrow he, ho]

theorem openingParenthesis_operator {text : List Char} (he : ∀ c ∈ edge? text, ¬Wide c)
    (ho : lastWord text ∈ typeOperators) (cs : List Char) :
    openingParenthesis 0 0 text.reverse ('(' :: cs) =
      match closingParenthesis 0 cs with
      | none => .ok none
      | some (inner, rest) =>
        openingParenthesis 0 0 (text ++ '(' :: (inner ++ [')'])).reverse rest := by
  rw [openingParenthesis.eq_def]
  simp only [endsInTypeOperator_narrow he, ho, decide_true, openingParenthesis_operand]
  cases closingParenthesis 0 cs <;> simp

theorem Passed.openingParenthesis {text : List Char} {angle : Nat} (h : Passed text angle)
    (cs : List Char) : openingParenthesis 0 0 [] (text ++ cs) =
      openingParenthesis angle 0 text.reverse cs := by
  induction h generalizing cs with
  | nil => rfl
  | @char text angle c h hc ih =>
    rw [List.append_assoc, ih, List.singleton_append, openingParenthesis_char _ _ _ hc]
    simp
  | @operand text inner h he ho hi ih =>
    have hs : text ++ '(' :: (inner ++ [')']) ++ cs = text ++ '(' :: (inner ++ ')' :: cs) := by
      simp
    rw [hs, ih, openingParenthesis_operator he ho, closingParenthesis_eq_some_iff.2 ⟨hi, rfl⟩]

/-- How the search for a parenthesis can end. -/
inductive SearchEnd (spelling : List Char) : Except Fault (Option (List Char × List Char)) → Prop
  | absent : SearchEnd spelling (.ok none)
  | cut {before rest : List Char} {c : Char} (hs : spelling = before ++ '(' :: rest)
      (h : Passed before 0) (he : edge? before = some c) (hc : Wide c) :
      SearchEnd spelling (.error (.cutInside c))
  | found {before rest : List Char} (hs : spelling = before ++ '(' :: rest) (h : Passed before 0)
      (he : ∀ c ∈ edge? before, ¬Wide c) (ho : lastWord before ∉ typeOperators) :
      SearchEnd spelling (.ok (some (before, rest)))

theorem Passed.searchEnd {text cs : List Char} {angle : Nat} (h : Passed text angle) :
    SearchEnd (text ++ cs) (Spelling.openingParenthesis angle 0 text.reverse cs) := by
  -- An operand is passed in one step, so the induction is on the length of what is left.
  induction hn : cs.length using Nat.strong_induction_on generalizing text cs angle with
  | _ n ih =>
  cases cs with
  | nil =>
    unfold Spelling.openingParenthesis
    exact .absent
  | cons c cs =>
    rw [List.length_cons] at hn
    by_cases hc : c = '(' ∧ angle = 0
    · obtain ⟨rfl, rfl⟩ := hc
      by_cases hw : ∃ c ∈ edge? text, Wide c
      · obtain ⟨c, he, hw⟩ := hw
        rw [openingParenthesis_wide he hw]
        exact .cut rfl h he hw
      · have he : ∀ c ∈ edge? text, ¬Wide c := fun c hc hwc => hw ⟨c, hc, hwc⟩
        by_cases ho : lastWord text ∈ typeOperators
        · rw [openingParenthesis_operator he ho]
          cases hclose : closingParenthesis 0 cs with
          | none => exact .absent
          | some r =>
            obtain ⟨inner, rest⟩ := r
            obtain ⟨hi, rfl⟩ := closingParenthesis_eq_some_iff.1 hclose
            have hlt : rest.length < n := by
              simp only [List.length_append, List.length_cons] at hn
              omega
            simpa using ih rest.length hlt (h.operand he ho hi) rfl
        · rw [openingParenthesis_found he ho]
          exact .found rfl h he ho
    · rw [openingParenthesis_char _ _ _ hc]
      simpa using ih cs.length (by omega) (h.char hc) rfl

theorem openingParenthesis_end (spelling : List Char) :
    SearchEnd spelling (openingParenthesis 0 0 [] spelling) :=
  Passed.nil.searchEnd

/-- The spelling is cut inside a character: at a parenthesis that is looked at, or in the declarator
group that the first parenthesis opens. -/
inductive Cut : List Char → Char → Prop
  | here {before rest : List Char} {c : Char} (h : Passed before 0) (he : edge? before = some c)
      (hc : Wide c) : Cut (before ++ '(' :: rest) c
  | group {before inner trailing : List Char} {c : Char} (h : Passed before 0)
      (he : ∀ c ∈ edge? before, ¬Wide c) (ho : lastWord before ∉ typeOperators)
      (hi : Balanced inner) (hm : (Text.trimStart inner).head?.any isPointerMark)
      (hc : Cut inner c) : Cut (before ++ '(' :: (inner ++ ')' :: trailing)) c

theorem strip_eq_error {spelling : List Char} {fault : Fault}
    (h : openingParenthesis 0 0 [] spelling = .error fault) : strip spelling = .error fault := by
  unfold strip
  split <;> simp_all

theorem strip_group {spelling before rest inner trailing : List Char} {fault : Fault}
    (ho : openingParenthesis 0 0 [] spelling = .ok (some (before, rest)))
    (hc : closingParenthesis 0 rest = some (inner, trailing))
    (hm : (Text.trimStart inner).head?.any isPointerMark) (hs : strip inner = .error fault) :
    strip spelling = .error fault := by
  rw [strip]
  split
  · simp_all
  · simp_all
  · split <;> simp_all

/-- A spelling is cut inside a character exactly where the parentheses make it so. -/
theorem strip_eq_error_iff {spelling : List Char} {fault : Fault} :
    strip spelling = .error fault ↔ ∃ c, fault = .cutInside c ∧ Cut spelling c := by
  constructor
  · intro h
    fun_induction strip spelling with
    | case1 spelling fault' ho =>
      -- The search itself has come upon the character.
      obtain rfl : fault' = fault := by simpa using h
      have hend := openingParenthesis_end spelling
      rw [ho] at hend
      cases hend with
      | @cut before rest c hs hp he hc =>
        subst hs
        exact ⟨c, rfl, .here hp he hc⟩
    | case4 spelling before rest ho inner trailing hc hm fault' hs ih =>
      -- The search has found a group, and the fault is inside of it.
      obtain ⟨c, rfl, hcut⟩ := ih (hs.trans h)
      obtain ⟨hi, rfl⟩ := closingParenthesis_eq_some_iff.1 hc
      have hend := openingParenthesis_end spelling
      rw [ho] at hend
      cases hend with
      | found hs hp he hw =>
        subst hs
        exact ⟨c, rfl, .group hp he hw hi hm hcut⟩
    | _ => simp at h
  · rintro ⟨c, rfl, hc⟩
    induction hc with
    | here h he hc =>
      apply strip_eq_error
      rw [h.openingParenthesis, openingParenthesis_wide he hc]
    | @group before inner trailing c h he ho hi hm hc ih =>
      have hopen : openingParenthesis 0 0 [] (before ++ '(' :: (inner ++ ')' :: trailing)) =
          .ok (some (before, inner ++ ')' :: trailing)) := by
        rw [h.openingParenthesis, openingParenthesis_found he ho]
      exact strip_group hopen (closingParenthesis_eq_some_iff.2 ⟨hi, rfl⟩) hm ih

theorem mem_of_mem_trimEnd {text : List Char} {c : Char} (h : c ∈ Text.trimEnd text) :
    c ∈ text := by
  unfold Text.trimEnd at h
  exact List.mem_reverse.1 ((List.dropWhile_sublist _).mem (List.mem_reverse.1 h))

theorem mem_of_edge? {text : List Char} {c : Char} (h : edge? text = some c) : c ∈ text :=
  mem_of_mem_trimEnd ((List.rdropWhile_prefix _ _).mem (List.mem_of_getLast? h))

/-- A spelling is cut only inside a wide character of its own. -/
theorem Cut.wide {spelling : List Char} {c : Char} (h : Cut spelling c) :
    c ∈ spelling ∧ Wide c := by
  induction h with
  | here h he hc => exact ⟨List.mem_append_left _ (mem_of_edge? he), hc⟩
  | group h he ho hi hm hc ih => exact ⟨by simp [ih.1], ih.2⟩

/-- A spelling that cannot be split. -/
def IsCut (spelling : String) : Prop := ∃ c, Cut (Text.trim spelling.toList) c

theorem IsCut.wide {spelling : String} (h : IsCut spelling) :
    ∃ c ∈ spelling.toList, Wide c := by
  obtain ⟨c, hcut⟩ := h
  obtain ⟨hm, hw⟩ := hcut.wide
  unfold Text.trim Text.trimStart at hm
  exact ⟨c, (List.dropWhile_sublist _).mem (mem_of_mem_trimEnd hm), hw⟩

theorem splitFunctionType_error_iff {spelling : String} :
    (∃ fault, splitFunctionType spelling = .error fault) ↔ IsCut spelling := by
  have hs : ∀ fault, splitFunctionType spelling = .error fault ↔
      strip (Text.trim spelling.toList) = .error fault := by
    intro fault
    unfold splitFunctionType signature
    cases strip (Text.trim spelling.toList) with
    | error fault' => simp
    | ok s =>
      cases s with
      | none => simp
      | some s => simp only; split <;> simp
  simp only [hs, strip_eq_error_iff, IsCut]
  constructor
  · rintro ⟨_, c, rfl, hc⟩
    exact ⟨c, hc⟩
  · rintro ⟨c, hc⟩
    exact ⟨_, c, rfl, hc⟩

end CSymbols.Spelling
