import CSymbols.Proofs.ByteOffsets

/-! The one way in which splitting can stop without an answer: at some level of a spelling, a
parenthesis is looked at whose word begins right behind a wide character. -/
namespace CSymbols.Spelling

/-- A level of a spelling: the spelling itself, or a level of the declarator group that it opens. -/
inductive Level : List Char → List Char → Prop
  | outermost {spelling : List Char} : Level spelling spelling
  | group {before inner behind text : List Char} (hb : Leads before) (hi : Balanced inner)
      (hg : IsGroup inner) (h : Level inner text) :
      Level (before ++ '(' :: (inner ++ ')' :: behind)) text

/-- The parenthesis behind the text `before` is looked at: it is outside of angle brackets and of
operands, and so far every parenthesis has been skipped. -/
def Examined (text before : List Char) : Prop :=
  Skipped before 0 ∧ ∃ rest, text = before ++ '(' :: rest

/-- A parenthesis with a wide character in front of its word is looked at. -/
def ExaminedWide (spelling : List Char) : Prop :=
  ∃ text before c, Level spelling text ∧ Examined text before ∧ edge? before = some c ∧ Wide c

theorem Cut.examinedWide {spelling : List Char} {c : Char} (h : Cut spelling c) :
    ExaminedWide spelling := by
  induction h with
  | @here before rest c h he hc =>
    exact ⟨_, before, c, .outermost, ⟨h.skipped, rest, rfl⟩, he, hc⟩
  | group h he ho hi hm _ ih =>
    obtain ⟨text, before, c, hl, hx, hedge, hc⟩ := ih
    exact ⟨text, before, c, .group ⟨h.skipped, ho⟩ hi (isGroup_iff.2 hm) hl, hx, hedge, hc⟩

/-- Whatever comes first, the parenthesis itself or an operand in front of it, cuts the text. -/
theorem Examined.exists_cut {text before : List Char} {c : Char} (h : Examined text before)
    (he : edge? before = some c) (hc : Wide c) : ∃ c, Cut text c := by
  obtain ⟨hskipped, rest, rfl⟩ := h
  rcases hskipped.passed_or_cut with hp | ⟨d, hd⟩
  · exact ⟨c, .here hp he hc⟩
  · exact ⟨d, hd _⟩

theorem Level.exists_cut {spelling text : List Char} (h : Level spelling text)
    (hc : ∃ c, Cut text c) : ∃ c, Cut spelling c := by
  induction h with
  | outermost => exact hc
  | group hb hi hg _ ih =>
    by_contra hnone
    obtain ⟨c, hcut⟩ := ih hc
    exact hb.not_cut_inner hi hg (fun d hd => hnone ⟨d, hd⟩) c hcut

theorem isCut_iff_examinedWide {q : String} : IsCut q ↔ ExaminedWide (Text.trim q.toList) := by
  constructor
  · rintro ⟨c, hc⟩
    exact hc.examinedWide
  · rintro ⟨text, before, c, hl, hx, he, hc⟩
    exact hl.exists_cut (hx.exists_cut he hc)

theorem not_wide_of_ascii {c : Char} (h : c.toNat < 128) : ¬Wide c := by
  have hone : c.utf8Size = 1 := by
    rw [Char.utf8Size_eq_one_iff, UInt32.le_iff_toNat_le]
    exact Nat.le_of_lt_succ h
  unfold Wide
  omega

/-- Splitting by offsets stops just if a parenthesis with a wide character in front of its word is
looked at, and then at that word: no other part is cut inside of a character and no parenthesis is
closed that was not opened. It never stops on ASCII, and a parameter list can always be split. -/
theorem splitFunctionType_faults_iff (q : String) :
    Offset.splitFunctionType q = Offset.sliced (splitFunctionType q) ∧
    ((∃ fault, Offset.splitFunctionType q = .error fault) ↔
      ExaminedWide (Text.trim q.toList)) ∧
    (∀ fault, Offset.splitFunctionType q = .error fault → fault = .word) ∧
    ((∀ c ∈ q.toList, c.toNat < 128) → ∃ s, Offset.splitFunctionType q = .ok s) ∧
    ∀ parameters, Offset.splitParameterList parameters = .ok (splitParameterList parameters) := by
  have herror : (∃ fault, Offset.splitFunctionType q = .error fault) ↔ IsCut q := by
    rw [Offset.splitFunctionType_eq, ← splitFunctionType_error_iff]
    cases splitFunctionType q <;> simp [Offset.sliced, Except.mapError]
  refine ⟨Offset.splitFunctionType_eq q, herror.trans isCut_iff_examinedWide, ?_, ?_,
    Offset.splitParameterList_eq⟩
  · intro fault h
    rw [Offset.splitFunctionType_eq] at h
    cases hs : splitFunctionType q with
    | error fault => simpa [Offset.sliced, Except.mapError, hs, eq_comm] using h
    | ok s => simp [Offset.sliced, Except.mapError, hs] at h
  · intro hascii
    have hnot : ¬IsCut q := by
      intro hcut
      obtain ⟨c, hc, hwide⟩ := hcut.wide
      exact not_wide_of_ascii (hascii c hc) hwide
    cases hs : Offset.splitFunctionType q with
    | error fault => exact absurd (herror.1 ⟨fault, hs⟩) hnot
    | ok s => exact ⟨s, rfl⟩

/-- A name with a wide letter may stand in the parameter list, but not in front of it. -/
theorem splitFunctionType_faults_wideName :
    Offset.splitFunctionType "struct Größe (int)" = .error .word ∧
      ExaminedWide (Text.trim "struct Größe (int)".toList) ∧
      Offset.splitFunctionType "int (struct Größe)" = .ok (some ⟨"int", ["struct Größe"]⟩) ∧
      ∃ s, Offset.splitFunctionType "int (*(char, ...))[3]" = .ok s := by
  have hfault : Offset.splitFunctionType "struct Größe (int)" = .error .word := by
    rw [Offset.splitFunctionType_eq]
    decide +kernel
  have hlist : Offset.splitFunctionType "int (struct Größe)" =
      .ok (some ⟨"int", ["struct Größe"]⟩) := by
    rw [Offset.splitFunctionType_eq]
    decide +kernel
  obtain ⟨-, hiff, -⟩ := splitFunctionType_faults_iff "struct Größe (int)"
  obtain ⟨-, -, -, hascii, -⟩ := splitFunctionType_faults_iff "int (*(char, ...))[3]"
  exact ⟨hfault, hiff.1 ⟨_, hfault⟩, hlist, hascii (by decide)⟩

end CSymbols.Spelling
