import CSymbols.Remark
import Mathlib.Data.List.DropRight
import Mathlib.Data.List.Induction

/-! Which directives are listed: those with nothing but whitespace and block comments between them
and the last newline lexeme. A newline inside of another lexeme does not begin a line. -/
namespace CSymbols.Remark
open Lexeme

/-- Whitespace or a block comment, which may span several lines. -/
def IsGap (l : Lexeme) : Prop := l.kind = some .whitespace ∨ l.kind = some .blockComment

instance (l : Lexeme) : Decidable (IsGap l) := inferInstanceAs (Decidable (_ ∨ _))

/-- The lexemes behind the last newline lexeme, or all if there is none. -/
def sinceNewline (before : List Lexeme) : List Lexeme :=
  before.rtakeWhile fun l => l.kind != some .newline

/-- Nothing but gaps stands on the line that the lexemes leave off in. -/
def LineStart (before : List Lexeme) : Prop := ∀ l ∈ sinceNewline before, IsGap l

instance (before : List Lexeme) : Decidable (LineStart before) :=
  inferInstanceAs (Decidable (∀ l ∈ sinceNewline before, IsGap l))

/-- A directive at the start of its line. -/
def Heads (before : List Lexeme) (l : Lexeme) : Prop :=
  l.kind = some .directive ∧ LineStart before

instance (before : List Lexeme) (l : Lexeme) : Decidable (Heads before l) :=
  inferInstanceAs (Decidable (_ ∧ _))

/-- The lexemes, each with all that stand before it. -/
def preceded (before : List Lexeme) : List Lexeme → List (List Lexeme × Lexeme)
  | [] => []
  | l :: ls => (before, l) :: preceded (before ++ [l]) ls

/-- The remark that a directive makes. -/
def ofDirective (l : Lexeme) : Remark := ⟨String.ofList (Text.trimEnd l.text), l.line⟩

/-- Whether nothing but gaps has been seen on the line behind a lexeme, by whether that is so in
front of it. -/
def startsBehind (atStart : Bool) (l : Lexeme) : Bool :=
  match l.kind with
  | some .newline => true
  | some .whitespace | some .blockComment => atStart
  | _ => false

theorem directivesFrom_cons (atStart : Bool) (l : Lexeme) (ls : List Lexeme) :
    directivesFrom atStart (l :: ls) =
      (if l.kind = some .directive ∧ atStart then [ofDirective l] else []) ++
        directivesFrom (startsBehind atStart l) ls := by
  obtain ⟨kind, text, line⟩ := l
  cases kind with
  | none => rfl
  | some k => cases k <;> cases atStart <;> rfl

theorem directivesFrom_append (atStart : Bool) (ls ms : List Lexeme) :
    directivesFrom atStart (ls ++ ms) =
      directivesFrom atStart ls ++ directivesFrom (ls.foldl startsBehind atStart) ms := by
  induction ls generalizing atStart with
  | nil => rfl
  | cons l ls ih =>
    rw [List.cons_append, directivesFrom_cons, directivesFrom_cons, ih, List.append_assoc]
    rfl

theorem lineStart_nil : LineStart [] := by
  intro l hl
  simp [sinceNewline] at hl

theorem lineStart_concat {before : List Lexeme} {l : Lexeme} :
    LineStart (before ++ [l]) ↔ l.kind = some .newline ∨ IsGap l ∧ LineStart before := by
  unfold LineStart sinceNewline
  rw [List.rtakeWhile_concat]
  by_cases hl : l.kind = some .newline
  · simp [hl]
  · have hpass : (l.kind != some .newline) = true := by simpa using hl
    rw [if_pos hpass, List.forall_mem_append, List.forall_mem_singleton]
    simp only [hl, false_or, and_comm]

/-- The flag that is carried along tells whether a line has been started. -/
theorem startsBehind_lineStart (before : List Lexeme) (l : Lexeme) :
    startsBehind (decide (LineStart before)) l = decide (LineStart (before ++ [l])) := by
  have hconcat : LineStart (before ++ [l]) ↔ _ := lineStart_concat
  obtain ⟨kind, text, line⟩ := l
  unfold IsGap at hconcat
  unfold startsBehind
  rcases kind with - | k
  · simp [hconcat]
  · cases k <;> simp [hconcat]

theorem directivesFrom_eq_filter (before ls : List Lexeme) :
    directivesFrom (decide (LineStart before)) ls =
      ((preceded before ls).filter fun p => Heads p.1 p.2).map fun p => ofDirective p.2 := by
  induction ls generalizing before with
  | nil => rfl
  | cons l ls ih =>
    rw [directivesFrom_cons, startsBehind_lineStart, ih, preceded, List.filter_cons]
    by_cases hl : Heads before l
    · have hboth : l.kind = some .directive ∧ decide (LineStart before) = true := by
        simpa [Heads] using hl
      rw [if_pos hboth, if_pos (by simpa using hl)]
      rfl
    · have hnot : ¬ (l.kind = some .directive ∧ decide (LineStart before) = true) := by
        simpa [Heads] using hl
      rw [if_neg hnot, if_neg (by simpa using hl)]
      rfl

/-- Without a newline among them, more lexemes leave a line at its start just if all are gaps. -/
theorem lineStart_append {before between : List Lexeme}
    (h : ∀ l ∈ between, l.kind ≠ some .newline) :
    LineStart (before ++ between) ↔ LineStart before ∧ ∀ l ∈ between, IsGap l := by
  induction between using List.reverseRecOn with
  | nil => simp
  | append_singleton between l ih =>
    rw [List.forall_mem_append, List.forall_mem_singleton] at h
    rw [← List.append_assoc, lineStart_concat, ih h.1, List.forall_mem_append,
      List.forall_mem_singleton]
    constructor
    · intro hstart
      obtain ⟨hgap, hbefore, hbetween⟩ := hstart.resolve_left h.2
      exact ⟨hbefore, hbetween, hgap⟩
    · intro ⟨hbefore, hbetween, hgap⟩
      exact .inr ⟨hgap, hbefore, hbetween⟩

theorem IsGap.ne_newline {l : Lexeme} (h : IsGap l) : l.kind ≠ some .newline := by
  rcases h with h | h
  all_goals
    rw [h]
    decide

/-- Behind a lexeme that is neither a newline nor a gap, no line starts before the next newline. -/
theorem not_lineStart_behind {before between : List Lexeme} {l : Lexeme}
    (hl : l.kind ≠ some .newline) (hgap : ¬ IsGap l)
    (hbetween : ∀ m ∈ between, m.kind ≠ some .newline) : ¬ LineStart (before ++ l :: between) := by
  intro hstart
  have hnone : ∀ m ∈ l :: between, m.kind ≠ some .newline := List.forall_mem_cons.2 ⟨hl, hbetween⟩
  have hgaps := ((lineStart_append hnone).1 hstart).2
  exact hgap (hgaps l List.mem_cons_self)

theorem not_isGap_of_directive {l : Lexeme} (h : l.kind = some .directive) : ¬ IsGap l := by
  unfold IsGap
  rw [h]
  decide

theorem mem_preceded_iff {before before' ls : List Lexeme} {l : Lexeme} :
    (before', l) ∈ preceded before ls ↔
      ∃ front after, ls = front ++ l :: after ∧ before' = before ++ front := by
  induction ls generalizing before with
  | nil => simp [preceded]
  | cons m ls ih =>
    rw [preceded, List.mem_cons, ih]
    constructor
    · rintro (hfirst | ⟨front, after, hls, hbefore⟩)
      · obtain ⟨hbefore, hl⟩ := Prod.mk.inj hfirst
        exact ⟨[], ls, by rw [hl]; rfl, by rw [hbefore, List.append_nil]⟩
      · exact ⟨m :: front, after, by rw [hls]; rfl, by rw [hbefore, List.append_assoc]; rfl⟩
    · rintro ⟨front, after, hls, hbefore⟩
      cases front with
      | nil =>
        obtain ⟨hm, -⟩ := List.cons.inj hls
        exact .inl (by rw [hbefore, hm, List.append_nil])
      | cons m' front =>
        obtain ⟨hm, hls'⟩ := List.cons.inj hls
        exact .inr ⟨front, after, hls', by rw [hbefore, hm, List.append_assoc]; rfl⟩

/-- The directives of a source that head a line, each with the lexemes in front of it. -/
def heads (source : String) : List (List Lexeme × Lexeme) :=
  (preceded [] (lexemes source)).filter fun p => Heads p.1 p.2

theorem mem_heads_iff {source : String} {before : List Lexeme} {l : Lexeme} :
    (before, l) ∈ heads source ↔
      (∃ after, lexemes source = before ++ l :: after) ∧ Heads before l := by
  rw [heads, List.mem_filter, mem_preceded_iff, decide_eq_true_iff]
  apply and_congr_left
  intro _
  constructor
  · rintro ⟨front, after, hls, hbefore⟩
    exact ⟨after, by rw [hls, hbefore]; rfl⟩
  · rintro ⟨after, hls⟩
    exact ⟨before, after, hls, rfl⟩

/-- The directives that are listed of a source are those that head a line, in order, each with its
own line and without blanks at its end. -/
structure ListsHeads (source : String) : Prop where
  listed : directives source = (heads source).map fun p => ofDirective p.2
  /-- Between two of them there is a newline lexeme. -/
  apart : ∀ before d between d', (before, d) ∈ heads source →
    (before ++ d :: between, d') ∈ heads source → ∃ l ∈ between, l.kind = some .newline
  /-- None stands behind code, a literal, an unclosed literal or a line comment, also if a comment
  of several lines comes between. -/
  barred : ∀ before l between d, l.kind ≠ some .newline → ¬ IsGap l →
    (∀ m ∈ between, m.kind ≠ some .newline) → (before ++ l :: between, d) ∉ heads source
  /-- One that has only gaps in front of it is listed, also behind comments of several lines. -/
  admitted : ∀ before between d after, lexemes source = before ++ (between ++ d :: after) →
    (before = [] ∨ ∃ l ∈ before.getLast?, l.kind = some .newline) → (∀ l ∈ between, IsGap l) →
    d.kind = some .directive → (before ++ between, d) ∈ heads source

theorem directives_listsHeads (source : String) : ListsHeads source where
  listed := by
    have hlist := directivesFrom_eq_filter [] (lexemes source)
    rwa [decide_eq_true lineStart_nil] at hlist
  apart before d between d' hd hd' := by
    have hdirective := (mem_heads_iff.1 hd).2.1
    have hstart := (mem_heads_iff.1 hd').2.2
    have hnewline : d.kind ≠ some .newline := by
      rw [hdirective]
      decide
    by_contra hnone
    have hbetween : ∀ m ∈ between, m.kind ≠ some .newline :=
      fun m hm hk => hnone ⟨m, hm, hk⟩
    exact not_lineStart_behind hnewline (not_isGap_of_directive hdirective) hbetween hstart
  barred before l between d hl hgap hbetween hd :=
    not_lineStart_behind hl hgap hbetween (mem_heads_iff.1 hd).2.2
  admitted before between d after hls hbefore hbetween hd := by
    have hstart : LineStart before := by
      rcases hbefore with hnil | ⟨l, hlast, hl⟩
      · rw [hnil]
        exact lineStart_nil
      · obtain ⟨front, hfront⟩ := List.getLast?_eq_some_iff.1 hlast
        rw [hfront]
        exact lineStart_concat.2 (.inl hl)
    have hnone : ∀ l ∈ between, l.kind ≠ some .newline := fun l hl => (hbetween l hl).ne_newline
    apply mem_heads_iff.2
    refine ⟨⟨after, by rw [hls, List.append_assoc]⟩, hd, ?_⟩
    exact (lineStart_append hnone).2 ⟨hstart, hbetween⟩

/-- A directive behind a comment of two lines, and one that has code in front of such a comment. -/
def spannedSource : String := "/* a\n */ #x \nc /* b\n */ #y\n"

theorem directives_listsHeads_spanned :
    ListsHeads spannedSource ∧ directives spannedSource = [⟨"#x", 2⟩] :=
  ⟨directives_listsHeads spannedSource, by decide +kernel⟩

end CSymbols.Remark
