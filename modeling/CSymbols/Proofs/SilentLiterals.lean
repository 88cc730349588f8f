import CSymbols.Proofs.Terminators

/-! Marks inside of literals. Nothing in a closed string or character literal is taken for a comment
or a directive. A raw string is read up to its next quote only, whatever its delimiter, so that the
same holds of it just if what follows that quote is as silent when it is read on its own. -/
namespace CSymbols.Lexeme

/-- The lexeme with its line counted from further above, in 32 bits. -/
def raised (n : Nat) (l : Lexeme) : Lexeme := { l with line := (l.line + n) % 4294967296 }

/-- Lexemes do not depend on the line on which they are found. -/
theorem scan_add (line n : Nat) (cs : List Char) :
    scan (line + n) cs = (scan line cs).map (raised n) := by
  fun_induction scan line cs with
  | case1 => simp [scan]
  | case2 line c cs next ih =>
    have hline : line + n + next.text.count '\n' = line + next.text.count '\n' + n := by omega
    have hlexeme : raised n ⟨next.kind, next.text, line % 4294967296⟩ =
        ⟨next.kind, next.text, (line + n) % 4294967296⟩ := by
      rw [raised, Nat.mod_add_mod]
    rw [scan, List.map_cons, ← ih, ← hline, hlexeme]

theorem placed_append (offset : Nat) (ls ms : List Lexeme) :
    placed offset (ls ++ ms) = placed offset ls ++ placed (offset + (textOf ls).length) ms := by
  induction ls generalizing offset with
  | nil => rfl
  | cons l ls ih =>
    rw [List.cons_append, placed, ih, placed, textOf_cons, List.length_append, Nat.add_assoc]
    rfl

theorem placed_raised (offset d n : Nat) (ls : List Lexeme) :
    placed (offset + d) (ls.map (raised n)) =
      (placed offset ls).map fun p => (p.1 + d, raised n p.2) := by
  induction ls generalizing offset with
  | nil => rfl
  | cons l ls ih =>
    have hoffset : offset + d + l.text.length = offset + l.text.length + d := by omega
    rw [List.map_cons, placed, placed, List.map_cons, ← ih, ← hoffset]
    rfl

/-- Comments and directives, which remarks are made of. -/
def Kind.isRemark (k : Kind) : Bool := k.isComment || k == .directive

/-- No comment and no directive begins between two offsets. -/
def Quiet (start stop : Nat) (ps : List (Nat × Lexeme)) : Prop :=
  ∀ p ∈ ps, start ≤ p.1 → p.1 < stop → p.2.kind.any Kind.isRemark = false

instance (start stop : Nat) (ps : List (Nat × Lexeme)) : Decidable (Quiet start stop ps) :=
  inferInstanceAs (Decidable (∀ p ∈ ps, _))

/-- Remarks that are made of lexemes none of which begins between two offsets. -/
def ListedOutside (source : String) (start stop : Nat) (trim : List Char → List Char)
    (remarks : List Remark) : Prop :=
  ∃ ps : List (Nat × Lexeme), ps.Sublist (placed 0 (lexemes source)) ∧
    remarks = ps.map (Remark.ofPlaced trim) ∧ ∀ p ∈ ps, p.1 < start ∨ stop ≤ p.1

/-- Nothing between two offsets of a source is taken for a comment or directive, or listed. -/
structure Silent (source : String) (start stop : Nat) : Prop where
  quiet : Quiet start stop (placed 0 (lexemes source))
  comments : ListedOutside source start stop id (Remark.comments source)
  directives : ListedOutside source start stop Text.trimEnd (Remark.directives source)

theorem Quiet.outside {start stop : Nat} {ps : List (Nat × Lexeme)} (h : Quiet start stop ps)
    {p : Nat × Lexeme} (hp : p ∈ ps) {k : Kind} (hk : p.2.kind = some k) (hr : k.isRemark) :
    p.1 < start ∨ stop ≤ p.1 := by
  by_contra hinside
  have hquiet := h p hp (by omega) (by omega)
  rw [hk, Option.any_some, hr] at hquiet
  cases hquiet

theorem silent_iff {source : String} {start stop : Nat} :
    Silent source start stop ↔ Quiet start stop (placed 0 (lexemes source)) := by
  refine ⟨Silent.quiet, fun h => ⟨h, ?_, ?_⟩⟩
  · refine ⟨_, List.filter_sublist, Remark.commentsOf_placed 0 (lexemes source), ?_⟩
    intro p hp
    obtain ⟨hmem, hcomment⟩ := List.mem_filter.1 hp
    obtain ⟨k, hk, hcomment⟩ := (Option.any_eq_true _ _).1 hcomment
    exact h.outside hmem hk (by simp [Kind.isRemark, hcomment])
  · obtain ⟨ps, hps, hdirective, he⟩ := Remark.directivesFrom_sublist 0 true (lexemes source)
    exact ⟨ps, hps, he, fun p hp => h.outside (hps.subset hp) (hdirective p hp) rfl⟩

/-- Lexemes begin in front of the text behind them. -/
theorem lt_of_mem_placed {ls : List Lexeme} (hne : ∀ l ∈ ls, l.text ≠ []) {p : Nat × Lexeme}
    (h : p ∈ placed 0 ls) : p.1 < (textOf ls).length := by
  obtain ⟨before, after, hls, hp⟩ := mem_placed_split h
  have hpos := List.length_pos_iff.2 (hne p.2 (by rw [hls]; simp))
  rw [hls, textOf_append, textOf_cons, List.length_append, List.length_append]
  omega

/-- A lexeme that is neither a comment nor a directive, and a stretch of the source behind it: they
are silent just if the stretch is quiet at the beginning of a source. -/
theorem silent_front_iff {source : String} {before after : List Lexeme} {l : Lexeme}
    (h : lexemes source = before ++ l :: after) (hk : l.kind.any Kind.isRemark = false) (n : Nat) :
    Silent source (textOf before).length ((textOf before).length + l.text.length + n) ↔
      Quiet 0 n (placed 0 (scan 1 (textOf after))) := by
  have hscan : scan 1 source.toList = (before ++ [l]) ++ after := by
    rw [List.append_assoc]
    exact h
  have hafter : placed ((textOf before).length + l.text.length) after =
      (placed 0 (scan 1 (textOf after))).map fun p =>
        (p.1 + ((textOf before).length + l.text.length),
          raised ((textOf (before ++ [l])).count '\n') p.2) := by
    rw [← placed_raised, ← scan_add, Nat.zero_add, ← scan_behind hscan]
  have hbefore : ∀ p ∈ placed 0 before, p.1 < (textOf before).length := by
    intro p hp
    apply lt_of_mem_placed _ hp
    intro m hm
    have hmem : m ∈ scan 1 source.toList := by
      rw [hscan]
      simp [hm]
    exact scan_text_ne_nil hmem
  rw [silent_iff, h, placed_append, Nat.zero_add, placed, hafter]
  unfold Quiet
  rw [List.forall_mem_append, List.forall_mem_cons, List.forall_mem_map]
  constructor
  · intro hall p hp _ hlt
    obtain ⟨-, -, hquiet⟩ := hall
    have hp' := hquiet p hp
    simp only [raised] at hp'
    exact hp' (by omega) (by omega)
  · intro hquiet
    refine ⟨?_, fun _ _ => hk, ?_⟩
    · intro p hp hle
      have := hbefore p hp
      omega
    · intro p hp hle hlt
      exact hquiet p hp (by omega) (by omega)

/-- A raw string. Its body stands between parentheses, and the delimiter outside of both of them;
the body ends at the first parenthesis with the delimiter and a quote behind it. -/
structure RawLiteral where
  delimiter : List Char
  body : List Char
  length_le : delimiter.length ≤ 16
  plain : ∀ c ∈ delimiter, c ∉ ['(', ')', '\\', '"', '\n'] ∧ ¬ isSpace c
  unclosed : ¬ ')' :: (delimiter ++ ['"']) <:+: body

namespace RawLiteral

def closing (r : RawLiteral) : List Char := ')' :: (r.delimiter ++ ['"'])

def text (r : RawLiteral) : List Char :=
  'R' :: '"' :: (r.delimiter ++ '(' :: (r.body ++ r.closing))

theorem quote_not_mem (r : RawLiteral) : '"' ∉ r.delimiter := by
  intro hmem
  exact (r.plain '"' hmem).1 (by simp)

end RawLiteral

/-- The same of a text whose first lexeme is known. -/
theorem silent_cut_iff {source : String} {before behind : List Lexeme} {c : Char}
    {cs w rest : List Char} {k : Kind} (h : lexemes source = before ++ behind)
    (htext : source.toList = textOf before ++ c :: cs) (hcut : cut c cs = ⟨some k, w, rest⟩)
    (hk : k.isRemark = false) (n : Nat) :
    Silent source (textOf before).length ((textOf before).length + w.length + n) ↔
      Quiet 0 n (placed 0 (scan 1 rest)) := by
  rw [lexemes_behind h htext, scan, hcut] at h
  have hfront := silent_front_iff h hk n
  rwa [textOf_scan] at hfront

theorem quiet_zero (ps : List (Nat × Lexeme)) : Quiet 0 0 ps := by
  intro p _ _ hlt
  omega

namespace RawLiteral

/-- The first quote in the body, at which the reading of the string ends. -/
theorem text_of_quote {r : RawLiteral} {inside tail : List Char}
    (h : r.body = inside ++ '"' :: tail) (rest : List Char) :
    r.text ++ rest = 'R' :: '"' :: ((r.delimiter ++ '(' :: inside) ++
      '"' :: (tail ++ (r.closing ++ rest))) := by
  simp [text, h]

theorem text_of_plain (r : RawLiteral) (rest : List Char) :
    r.text ++ rest = 'R' :: '"' :: ((r.delimiter ++ '(' :: (r.body ++ ')' :: r.delimiter)) ++
      '"' :: rest) := by
  simp [text, closing]

end RawLiteral

theorem first_quote_unique {u v u' v' : List Char} (hu : '"' ∉ u) (hu' : '"' ∉ u')
    (h : u ++ '"' :: v = u' ++ '"' :: v') : u = u' ∧ v = v' := by
  have hread := restOfRaw_append_quote hu v
  rw [h, restOfRaw_append_quote hu' v'] at hread
  simpa [eq_comm] using hread

section Boundary

variable {source : String} {before behind : List Lexeme} {rest : List Char}
  (h : lexemes source = before ++ behind)

include h

/-- A closed string or character literal is one lexeme. -/
theorem silent_of_closesAt {k : Kind} {quote : Char} {cs body : List Char}
    (htext : source.toList = textOf before ++ quote :: cs) (hk : k.quote? = some quote)
    (hcloses : ClosesAt quote cs body rest) :
    Silent source (textOf before).length
      ((textOf before).length + (quote :: (body ++ [quote])).length) := by
  have hremark : k.isRemark = false := by cases k <;> cases hk <;> rfl
  have hsilent := silent_cut_iff h htext (cut_literal hk hcloses) hremark 0
  exact hsilent.2 (quiet_zero _)

/-- A raw string without a quote in its body is one lexeme. -/
theorem RawLiteral.silent_of_plain (r : RawLiteral)
    (htext : source.toList = textOf before ++ (r.text ++ rest)) (hbody : '"' ∉ r.body) :
    Silent source (textOf before).length ((textOf before).length + r.text.length) := by
  have hw : '"' ∉ r.delimiter ++ '(' :: (r.body ++ ')' :: r.delimiter) := by
    simp [r.quote_not_mem, hbody]
  have hwhole : r.text =
      'R' :: '"' :: ((r.delimiter ++ '(' :: (r.body ++ ')' :: r.delimiter)) ++ ['"']) := by
    simpa using RawLiteral.text_of_plain r []
  rw [RawLiteral.text_of_plain] at htext
  have hsilent := silent_cut_iff h htext (cut_raw hw rest) rfl 0
  rw [hwhole]
  exact hsilent.2 (quiet_zero _)

/-- A raw string with a quote in its body ends there, and lexemes of all kinds follow. -/
theorem RawLiteral.silent_iff_of_quote (r : RawLiteral)
    (htext : source.toList = textOf before ++ (r.text ++ rest)) {inside tail : List Char}
    (hbody : r.body = inside ++ '"' :: tail) (hinside : '"' ∉ inside) :
    Silent source (textOf before).length ((textOf before).length + r.text.length) ↔
      Quiet 0 (tail.length + r.closing.length)
        (placed 0 (scan 1 (tail ++ (r.closing ++ rest)))) := by
  have hw : '"' ∉ r.delimiter ++ '(' :: inside := by
    simp [r.quote_not_mem, hinside]
  have hlength : r.text.length =
      ('R' :: '"' :: ((r.delimiter ++ '(' :: inside) ++ ['"'])).length +
        (tail.length + r.closing.length) := by
    have htotal := congrArg List.length (RawLiteral.text_of_quote hbody [])
    simp only [List.append_nil, List.length_cons, List.length_append, List.length_nil] at htotal ⊢
    omega
  rw [RawLiteral.text_of_quote hbody] at htext
  rw [hlength, ← Nat.add_assoc]
  exact silent_cut_iff h htext (cut_raw hw _) rfl _

end Boundary

/-- A closed string or character literal between lexemes is silent. A raw string is so just if its
body has no quote, or if the stretch behind the first quote is quiet when it is read on its own. -/
theorem literals_silent {source : String} {before behind : List Lexeme} {literal rest : List Char}
    (h : lexemes source = before ++ behind)
    (htext : source.toList = textOf before ++ (literal ++ rest)) :
    (∀ (k : Kind) quote body, k.quote? = some quote → literal = quote :: (body ++ [quote]) →
      Escaped quote body → Escaped '\n' body → ¬ Escapes body →
      Silent source (textOf before).length ((textOf before).length + literal.length)) ∧
    ∀ r : RawLiteral, literal = r.text →
      (Silent source (textOf before).length ((textOf before).length + literal.length) ↔
        ∀ inside tail, r.body = inside ++ '"' :: tail → '"' ∉ inside →
          Quiet 0 (tail.length + r.closing.length)
            (placed 0 (scan 1 (tail ++ (r.closing ++ rest))))) := by
  refine ⟨?_, ?_⟩
  · intro k quote body hk hliteral hquotes hnewlines hbare
    have hcloses : ClosesAt quote (body ++ quote :: rest) body rest :=
      ⟨rfl, hbare, hquotes, hnewlines⟩
    have hfront : literal ++ rest = quote :: (body ++ quote :: rest) := by
      rw [hliteral]
      simp
    rw [hfront] at htext
    rw [hliteral]
    exact silent_of_closesAt h htext hk hcloses
  · intro r hliteral
    rw [hliteral] at htext ⊢
    by_cases hquote : '"' ∈ r.body
    · obtain ⟨inside, tail, hbody, hinside⟩ := List.eq_append_cons_of_mem hquote
      rw [r.silent_iff_of_quote h htext hbody hinside]
      constructor
      · intro hquiet inside' tail' hbody' hinside'
        obtain ⟨-, htail⟩ := first_quote_unique hinside' hinside (hbody'.symm.trans hbody)
        rwa [htail]
      · intro hall
        exact hall inside tail hbody hinside
    · refine iff_of_true (r.silent_of_plain h htext hquote) ?_
      intro inside tail hbody
      exact absurd (by rw [hbody]; simp) hquote

/-- A raw string with all marks in it, and a quote that is followed by no mark. -/
def markedRaw : RawLiteral where
  delimiter := "d-d".toList
  body := "# /* // )\" x".toList
  length_le := by decide
  plain := by decide
  unclosed := by decide

theorem literals_silent_markedRaw :
    markedRaw.text = "R\"d-d(# /* // )\" x)d-d\"".toList ∧
    lexemes "f R\"d-d(# /* // )\" x)d-d\";" =
      [⟨some .identifier, "f".toList, 1⟩, ⟨some .whitespace, " ".toList, 1⟩] ++
        [⟨some .rawString, "R\"d-d(# /* // )\"".toList, 1⟩, ⟨some .whitespace, " ".toList, 1⟩,
          ⟨some .identifier, "x".toList, 1⟩, ⟨some .punctuation, ")".toList, 1⟩,
          ⟨some .identifier, "d".toList, 1⟩, ⟨some .punctuation, "-".toList, 1⟩,
          ⟨some .identifier, "d".toList, 1⟩, ⟨none, "\";".toList, 1⟩] ∧
    Silent "f R\"d-d(# /* // )\" x)d-d\";" 2 (2 + markedRaw.text.length) := by
  have h : lexemes "f R\"d-d(# /* // )\" x)d-d\";" =
      [⟨some .identifier, "f".toList, 1⟩, ⟨some .whitespace, " ".toList, 1⟩] ++
        [⟨some .rawString, "R\"d-d(# /* // )\"".toList, 1⟩, ⟨some .whitespace, " ".toList, 1⟩,
          ⟨some .identifier, "x".toList, 1⟩, ⟨some .punctuation, ")".toList, 1⟩,
          ⟨some .identifier, "d".toList, 1⟩, ⟨some .punctuation, "-".toList, 1⟩,
          ⟨some .identifier, "d".toList, 1⟩, ⟨none, "\";".toList, 1⟩] := by
    decide +kernel
  have htext : "f R\"d-d(# /* // )\" x)d-d\";".toList =
      "f ".toList ++ (markedRaw.text ++ ";".toList) := by
    decide +kernel
  refine ⟨by decide +kernel, h, ((literals_silent h htext).2 markedRaw rfl).2 ?_⟩
  intro inside tail hbody hinside
  have hfirst : markedRaw.body = "# /* // )".toList ++ '"' :: " x".toList := by decide +kernel
  obtain ⟨-, htail⟩ := first_quote_unique hinside (by decide) (hbody.symm.trans hfirst)
  rw [htail]
  decide +kernel

/-- A raw string without delimiter whose body goes on with a comment behind its first quote. -/
def quotedRaw : RawLiteral where
  delimiter := []
  body := "a\" // b".toList
  length_le := by decide
  plain := by decide
  unclosed := by decide

theorem quotedRaw_not_silent :
    quotedRaw.text = "R\"(a\" // b)\"".toList ∧
      Remark.comments "R\"(a\" // b)\"" = [⟨"// b)\"", 1⟩] ∧
      ¬ Silent "R\"(a\" // b)\"" 0 quotedRaw.text.length := by
  refine ⟨by decide +kernel, by decide +kernel, ?_⟩
  rw [silent_iff]
  decide +kernel

end CSymbols.Lexeme
