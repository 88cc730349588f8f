import CSymbols.Proofs.SpellingLayout

/-! Functions that return a pointer to a member of a class, such as `int (C::*(char))(long)`. A
group is told by the mark that it begins with, and this one begins with the name of the class, so it
is taken for the parameter list. -/
namespace CSymbols.Spelling

/-- The parts of a function type that returns a pointer to member. The suffix is what the pointer
points to: a parameter list with its qualifiers. -/
structure MemberPointer where
  base : List Char
  className : List Char
  parameters : List Char
  suffix : List Char
  leads : Leads base
  bare : Text.Bare base
  base_ne_nil : base ≠ []
  isName : ∀ c ∈ className, Text.isWordChar c = true ∨ c = ':'
  nested : Nested parameters

theorem Leads.append_space {before : List Char} (h : Leads before) : Leads (before ++ [' ']) := by
  refine ⟨h.skipped.char (by decide), ?_⟩
  have hword : lastWord (before ++ [' ']) = lastWord before := by
    unfold lastWord
    rw [Text.trimEnd_append (by decide)]
  rw [hword]
  exact h.noOperator

theorem isBlank_of_isWordChar {c : Char} (h : Text.isWordChar c = true) :
    Text.isBlank c = false := by
  have halpha : c.isAlpha = (decide (c.val ≥ 'A'.val ∧ c.val ≤ 'Z'.val) ||
      (decide (c.val ≥ 'a'.val) && decide (c.val ≤ 'z'.val))) := rfl
  have hbounds : 48 ≤ c.toNat ∧ c.toNat ≤ 122 := by
    simp only [Text.isWordChar, Char.isAlphanum, halpha, Char.isDigit, Bool.or_eq_true,
      Bool.and_eq_true, decide_eq_true_eq, beq_iff_eq, UInt32.le_iff_toNat_le, ge_iff_le] at h
    rcases h with h | rfl
    · simp at h
      omega
    · decide
  simp only [Text.isBlank, Text.inRanges, Text.blankRanges, List.any_cons, List.any_nil,
    Bool.or_false, Bool.or_eq_false_iff, Bool.and_eq_false_iff, decide_eq_false_iff_not]
  omega

namespace MemberPointer

/-- The name of the class with the mark behind it. -/
def pointer (m : MemberPointer) : List Char := m.className ++ "::*".toList

/-- What stands in the outer parentheses. -/
def declarator (m : MemberPointer) : List Char := m.pointer ++ '(' :: (m.parameters ++ [')'])

def print (m : MemberPointer) : String :=
  String.ofList (m.base ++ " (".toList ++ m.declarator ++ ")".toList ++ m.suffix)

/-- The signature as it would be if the pointer were a group. -/
def asGroup (m : MemberPointer) : Signature :=
  ⟨String.ofList (m.base ++ " (".toList ++ m.pointer ++ ")".toList ++ m.suffix),
    splitParameterList (String.ofList m.parameters)⟩

/-- The parts of the spelling, if the group is taken for the parameter list. -/
def layout (m : MemberPointer) : Layout := ⟨[], m.base ++ [' '], m.declarator, m.suffix⟩

theorem print_eq (m : MemberPointer) :
    m.print = plainSpelling (m.base ++ [' ']) m.declarator m.suffix := by
  simp [print, plainSpelling]

theorem plain_of_mem_pointer {m : MemberPointer} {c : Char} (h : c ∈ m.pointer) :
    Text.isWordChar c = true ∨ c = ':' ∨ c = '*' := by
  rcases List.mem_append.1 h with hname | hmark
  · exact (m.isName c hname).imp_right .inl
  · have hc : c = ':' ∨ c = '*' := by simpa using hmark
    exact .inr hc

theorem head_pointer (m : MemberPointer) :
    ∃ c ∈ m.pointer.head?, Text.isWordChar c = true ∨ c = ':' := by
  unfold pointer
  cases hn : m.className with
  | nil => exact ⟨':', rfl, .inr rfl⟩
  | cons c name => exact ⟨c, rfl, m.isName c (by simp [hn])⟩

theorem ne_of_plain {c d : Char} (h : Text.isWordChar c = true ∨ c = ':' ∨ c = '*')
    (hd : (Text.isWordChar d || d == ':' || d == '*') = false) : c ≠ d := by
  rintro rfl
  simp only [Bool.or_eq_false_iff, beq_eq_false_iff_ne] at hd
  simp [hd] at h

/-- The group does not begin with a mark. -/
theorem not_isGroup (m : MemberPointer) : ¬IsGroup m.declarator := by
  obtain ⟨c, hc, hplain⟩ := m.head_pointer
  have hhead : m.declarator.head? = some c := List.mem_head?_append_of_mem_head? hc
  have hblank : Text.isBlank c = false := by
    rcases hplain with hword | rfl
    · exact isBlank_of_isWordChar hword
    · decide
  have hstart : Text.trimStart m.declarator = m.declarator := by
    apply Text.trimStart_of_first
    intro d hd
    obtain rfl := Option.some.inj (hhead.symm.trans hd)
    exact hblank
  rintro ⟨d, hd, hmark⟩
  rw [hstart, hhead] at hd
  obtain rfl : c = d := by simpa using hd
  simp only [isPointerMark, Bool.or_eq_true, beq_iff_eq] at hmark
  rcases hmark with (rfl | rfl) | rfl <;> revert hplain <;> decide

theorem piece_declarator (m : MemberPointer) : Piece m.declarator := by
  obtain ⟨c, hc, hplain⟩ := m.head_pointer
  have hhead : m.declarator.head? = some c := List.mem_head?_append_of_mem_head? hc
  refine ⟨by simp [declarator], ⟨?_, ?_⟩, ?_⟩
  · intro d hd
    obtain rfl := Option.some.inj (hhead.symm.trans hd)
    rcases hplain with hword | rfl
    · exact isBlank_of_isWordChar hword
    · decide
  · intro d hd
    have hlast : m.declarator.getLast? = some ')' := by
      rw [declarator, ← List.cons_append, ← List.append_assoc, List.getLast?_concat]
    obtain rfl := Option.some.inj (hlast.symm.trans hd)
    decide
  · refine Undivided.plain_append ?_ (.group (by decide) m.nested .nil)
    intro d hd
    have hd' := plain_of_mem_pointer hd
    refine ⟨?_, ne_of_plain hd' (by decide)⟩
    rintro ⟨pair, hpair, he⟩
    simp only [brackets, List.mem_cons, List.not_mem_nil, or_false] at hpair
    rcases hpair with rfl | rfl | rfl <;> rcases he with he | he <;>
      exact ne_of_plain hd' (by decide) he

/-- The whole group is one type. -/
theorem parameterTypes_declarator (m : MemberPointer) :
    parameterTypes m.declarator = [m.declarator] := by
  have hmem : '(' ∈ m.declarator := by simp [declarator]
  have hvoid : [m.declarator] ≠ [noParameters] := by
    intro he
    rw [(List.cons.inj he).1] at hmem
    exact absurd hmem (by decide)
  have hvariadic : m.declarator ≠ variadicMark := by
    intro he
    rw [he] at hmem
    exact absurd hmem (by decide)
  have hpieces : ∀ p ∈ [m.declarator], Piece p := by
    intro p hp
    rw [List.mem_singleton.1 hp]
    exact m.piece_declarator
  have htypes := parameterTypes_joined (by simp) hpieces hvoid
  rw [joined_singleton] at htypes
  rw [htypes]
  simp [hvariadic]

theorem returned_layout (m : MemberPointer) : m.layout.returned = m.base := by
  show Text.trimEnd (m.base ++ [' ']) = m.base
  rw [Text.trimEnd_append (by decide), Text.trimEnd_of_last m.bare.last]

/-- The return type is less than the pointer to member would be. -/
theorem length_of_returns {m : MemberPointer} {t : List Char} (h : m.layout.Returns t) :
    t.length ≤ m.base.length + m.suffix.length := by
  unfold Layout.Returns at h
  rw [m.returned_layout, m.bare.trim] at h
  rcases h with ⟨-, -, front, rest, hs, -, rfl⟩ | ⟨rfl, -⟩
  · obtain ⟨before, behind, -, -, hrest, -⟩ :=
      Text.trim_eq_iff.1 (rfl : Text.trim rest = Text.trim rest)
    have hsuffix : m.suffix = front ++ '-' :: '>' :: rest := hs
    have hlength := congrArg List.length hrest
    rw [hsuffix]
    simp only [List.length_append, List.length_cons] at hlength ⊢
    omega
  · omega

end MemberPointer

/-- A pointer to member in front of its parameter list is taken for a parameter, so the function is
never split like one that returns another pointer. -/
theorem splitFunctionType_memberPointer (m : MemberPointer) :
    (IsCut m.print ∨ ∃ t, m.layout.Returns t ∧ splitFunctionType m.print =
      .ok (some ⟨String.ofList t, [String.ofList m.declarator]⟩)) ∧
    splitFunctionType m.print ≠ .ok (some m.asGroup) := by
  have hfirst : ∃ c ∈ (m.base ++ [' ']).head?, Text.isBlank c = false := by
    obtain ⟨c, base, hbase⟩ := List.exists_cons_of_ne_nil m.base_ne_nil
    exact ⟨c, by simp [hbase], m.bare.first c (by simp [hbase])⟩
  have hbalanced : Balanced m.declarator := m.piece_declarator.undivided.nested.balanced
  rw [m.print_eq]
  rcases m.leads.append_space.splitFunctionType hfirst with ⟨fault, hfault⟩ | hsplit
  · refine ⟨.inl (splitFunctionType_error_iff.1 ⟨fault, hfault _ _⟩), ?_⟩
    rw [hfault]
    simp
  · have hs := hsplit _ m.suffix hbalanced m.not_isGroup
    rw [m.parameterTypes_declarator] at hs
    have ht : m.layout.Returns (returnType m.layout.stripped) := Layout.returns_iff.2 rfl
    refine ⟨.inr ⟨_, ht, hs⟩, ?_⟩
    rw [hs]
    intro he
    have hreturn : returnType m.layout.stripped =
        m.base ++ " (".toList ++ m.pointer ++ ")".toList ++ m.suffix := by
      have hsame := congrArg Signature.returnType (Option.some.inj (Except.ok.inj he))
      exact String.ofList_injective hsame
    have hlength := MemberPointer.length_of_returns ht
    have hclosing : ")".toList.length = 1 := rfl
    rw [hreturn] at hlength
    simp only [List.length_append] at hlength
    omega

/-- A function that takes a number and returns a pointer to a member function. -/
def numberToMember : MemberPointer where
  base := "int".toList
  className := "N::C".toList
  parameters := "int, long".toList
  suffix := "(char) const".toList
  leads := by
    have hpassed : Passed ([] ++ "int".toList) 0 := Passed.nil.append_plain (by decide)
    exact ⟨hpassed.skipped, by decide⟩
  bare := ⟨by decide, by decide⟩
  base_ne_nil := by decide
  isName := by decide
  nested := by
    have hlong : Nested " long".toList := (undivided_of_plain (by decide)).nested
    exact .char (by decide) (.char (by decide) (.char (by decide) (.char (by decide) hlong)))

theorem splitFunctionType_numberToMember :
    numberToMember.print = "int (N::C::*(int, long))(char) const" ∧
      (IsCut numberToMember.print ∨ ∃ t, numberToMember.layout.Returns t ∧
        splitFunctionType numberToMember.print =
          .ok (some ⟨String.ofList t, [String.ofList numberToMember.declarator]⟩)) ∧
      splitFunctionType numberToMember.print ≠ .ok (some numberToMember.asGroup) :=
  ⟨by decide +kernel, splitFunctionType_memberPointer numberToMember⟩

/-- The group of a plain pointer is told by its mark, that of a pointer to member is not. -/
theorem splitFunctionType_memberPointer_misread :
    splitFunctionType "int (*(int))(char)" = .ok (some ⟨"int (*)(char)", ["int"]⟩) ∧
      splitFunctionType "int (C::*(int))(char)" = .ok (some ⟨"int", ["C::*(int)"]⟩) :=
  ⟨by decide +kernel, by decide +kernel⟩

end CSymbols.Spelling
