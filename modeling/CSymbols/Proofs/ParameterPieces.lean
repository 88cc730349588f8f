import CSymbols.Proofs.Parentheses
import CSymbols.Proofs.Trimming
import CSymbols.Spelling.Declarator
import CSymbols.Spelling.ParameterList

/-! Parameter lists that are put together from the spellings of types: they are split at the commas
between the types and nowhere else. -/
namespace CSymbols.Spelling

/-- The brackets, each with its partner. -/
def brackets : List (Char × Char) := [('(', ')'), ('<', '>'), ('[', ']')]

def IsBracket (c : Char) : Prop := ∃ pair ∈ brackets, c = pair.1 ∨ c = pair.2

instance (c : Char) : Decidable (IsBracket c) :=
  inferInstanceAs (Decidable (∃ pair ∈ brackets, c = pair.1 ∨ c = pair.2))

/-- Every bracket has its partner. -/
inductive Nested : List Char → Prop
  | nil : Nested []
  | char {c : Char} {cs : List Char} (hc : ¬IsBracket c) (h : Nested cs) : Nested (c :: cs)
  | group {opening closing : Char} {inner cs : List Char} (hp : (opening, closing) ∈ brackets)
      (hi : Nested inner) (h : Nested cs) : Nested (opening :: (inner ++ closing :: cs))

/-- Every bracket has its partner, and no comma stands outside of them. -/
inductive Undivided : List Char → Prop
  | nil : Undivided []
  | char {c : Char} {cs : List Char} (hc : ¬IsBracket c) (hn : c ≠ ',') (h : Undivided cs) :
      Undivided (c :: cs)
  | group {opening closing : Char} {inner cs : List Char} (hp : (opening, closing) ∈ brackets)
      (hi : Nested inner) (h : Undivided cs) : Undivided (opening :: (inner ++ closing :: cs))

theorem Balanced.append {front back : List Char} (hf : Balanced front) (hb : Balanced back) :
    Balanced (front ++ back) := by
  induction hf with
  | nil => exact hb
  | char ho hc _ ih => exact .char ho hc ih
  | @group inner cs hi _ _ ih =>
    have he : '(' :: (inner ++ ')' :: cs) ++ back = '(' :: (inner ++ ')' :: (cs ++ back)) := by
      simp
    rw [he]
    exact .group hi ih

theorem balanced_of_plain {cs : List Char} (h : ∀ c ∈ cs, c ≠ '(' ∧ c ≠ ')') : Balanced cs := by
  induction cs with
  | nil => exact .nil
  | cons c cs ih =>
    obtain ⟨ho, hc⟩ := h c List.mem_cons_self
    exact .char ho hc (ih fun c hc => h c (List.mem_cons_of_mem _ hc))

theorem Nested.balanced {cs : List Char} (h : Nested cs) : Balanced cs := by
  induction h with
  | nil => exact .nil
  | @char c cs hc _ ih =>
    have ho : c ≠ '(' ∧ c ≠ ')' := by
      constructor <;> (rintro rfl; exact hc (by decide))
    exact .char ho.1 ho.2 ih
  | @group opening closing inner cs hp _ _ ihi ih =>
    have hpairs : (opening = '(' ∧ closing = ')') ∨ (opening = '<' ∧ closing = '>') ∨
        (opening = '[' ∧ closing = ']') := by
      simpa [brackets] using hp
    rcases hpairs with ⟨rfl, rfl⟩ | ⟨rfl, rfl⟩ | ⟨rfl, rfl⟩
    · exact .group ihi ih
    · exact .char (by decide) (by decide) (ihi.append (.char (by decide) (by decide) ih))
    · exact .char (by decide) (by decide) (ihi.append (.char (by decide) (by decide) ih))

theorem Undivided.nested {cs : List Char} (h : Undivided cs) : Nested cs := by
  induction h with
  | nil => exact .nil
  | char hc _ _ ih => exact .char hc ih
  | group hp hi _ ih => exact .group hp hi ih

theorem Undivided.plain_append {front cs : List Char} (hf : ∀ c ∈ front, ¬IsBracket c ∧ c ≠ ',')
    (h : Undivided cs) : Undivided (front ++ cs) := by
  induction front with
  | nil => exact h
  | cons c front ih =>
    obtain ⟨hc, hn⟩ := hf c List.mem_cons_self
    exact .char hc hn (ih fun c hc => hf c (List.mem_cons_of_mem _ hc))

theorem undivided_of_plain {cs : List Char} (h : ∀ c ∈ cs, ¬IsBracket c ∧ c ≠ ',') :
    Undivided cs := by
  have hcs := Undivided.nil.plain_append h
  rwa [List.append_nil] at hcs

theorem depthAfter_char {c : Char} (h : ¬IsBracket c) (depth : Nat) :
    depthAfter depth c = depth := by
  have hc : (c ≠ '(' ∧ c ≠ ')') ∧ (c ≠ '<' ∧ c ≠ '>') ∧ c ≠ '[' ∧ c ≠ ']' := by
    simpa [IsBracket, brackets] using h
  simp [depthAfter, hc]

theorem depthAfter_bracket {opening closing : Char} (h : (opening, closing) ∈ brackets)
    (depth : Nat) : depthAfter depth opening = depth + 1 ∧
      depthAfter (depth + 1) closing = depth ∧ opening ≠ ',' := by
  simp only [brackets, List.mem_cons, Prod.mk.injEq, List.not_mem_nil, or_false] at h
  rcases h with ⟨rfl, rfl⟩ | ⟨rfl, rfl⟩ | ⟨rfl, rfl⟩ <;> simp [depthAfter]

theorem commaPieces_comma (cs : List Char) :
    commaPieces 0 (',' :: cs) = [] :: commaPieces 0 cs := by
  rw [commaPieces]
  simp

theorem commaPieces_char {depth : Nat} {c : Char} (h : ¬(c = ',' ∧ depth = 0)) (cs : List Char) :
    commaPieces depth (c :: cs) = extendFirst c (commaPieces (depthAfter depth c) cs) := by
  rw [commaPieces]
  simp [h]

theorem commaPieces_group {opening closing : Char} {inner : List Char}
    (hp : (opening, closing) ∈ brackets) {depth : Nat} {cs : List Char}
    (hi : commaPieces (depth + 1) (inner ++ closing :: cs) =
      inner.foldr extendFirst (commaPieces (depth + 1) (closing :: cs))) :
    commaPieces depth (opening :: (inner ++ closing :: cs)) =
      (opening :: (inner ++ [closing])).foldr extendFirst (commaPieces depth cs) := by
  obtain ⟨hopening, hclosing, hno⟩ := depthAfter_bracket hp depth
  rw [commaPieces_char (by simp [hno]), hopening, hi, commaPieces_char (by simp), hclosing]
  simp

theorem foldr_extendFirst (cs piece : List Char) (pieces : List (List Char)) :
    cs.foldr extendFirst (piece :: pieces) = (cs ++ piece) :: pieces := by
  induction cs with
  | nil => rfl
  | cons c cs ih => rw [List.foldr_cons, ih, extendFirst, List.cons_append]

/-- The commas inside brackets divide nothing. -/
theorem Nested.commaPieces {cs : List Char} (h : Nested cs) (depth : Nat) (rest : List Char) :
    Spelling.commaPieces (depth + 1) (cs ++ rest) =
      cs.foldr extendFirst (Spelling.commaPieces (depth + 1) rest) := by
  induction h generalizing depth rest with
  | nil => rfl
  | char hc _ ih =>
    rw [List.cons_append, commaPieces_char (by simp), depthAfter_char hc, ih, List.foldr_cons]
  | group hp _ _ ihi ih =>
    rw [List.cons_append, List.append_assoc, List.cons_append,
      commaPieces_group hp (ihi _ _), ih]
    simp

theorem Undivided.commaPieces {cs : List Char} (h : Undivided cs) (depth : Nat)
    (rest : List Char) : Spelling.commaPieces depth (cs ++ rest) =
      cs.foldr extendFirst (Spelling.commaPieces depth rest) := by
  induction h with
  | nil => rfl
  | char hc hn _ ih =>
    rw [List.cons_append, commaPieces_char (by simp [hn]), depthAfter_char hc, ih,
      List.foldr_cons]
  | group hp hi _ ih =>
    rw [List.cons_append, List.append_assoc, List.cons_append,
      commaPieces_group hp (hi.commaPieces _ _), ih]
    simp

/-- Pieces with commas between them, as they are printed. -/
def joined (pieces : List (List Char)) : List Char := [',', ' '].intercalate pieces

theorem joined_singleton (p : List Char) : joined [p] = p := List.intercalate_singleton

theorem joined_cons_cons (p q : List Char) (pieces : List (List Char)) :
    joined (p :: q :: pieces) = p ++ ',' :: ' ' :: joined (q :: pieces) := by
  unfold joined
  rw [List.intercalate_cons_cons, List.append_assoc]
  rfl

/-- A piece that is nothing but one, without margins. -/
structure Piece (cs : List Char) : Prop where
  ne_nil : cs ≠ []
  bare : Text.Bare cs
  undivided : Undivided cs

theorem map_trim_extendFirst {pieces : List (List Char)} (h : pieces ≠ []) :
    (extendFirst ' ' pieces).map Text.trim = pieces.map Text.trim := by
  cases pieces with
  | nil => exact absurd rfl h
  | cons p pieces => rfl

theorem map_trim_commaPieces_joined {pieces : List (List Char)} (hne : pieces ≠ [])
    (h : ∀ p ∈ pieces, Piece p) : (commaPieces 0 (joined pieces)).map Text.trim = pieces := by
  induction pieces with
  | nil => exact absurd rfl hne
  | cons p pieces ih =>
    have hp := h p List.mem_cons_self
    cases pieces with
    | nil =>
      have hone : commaPieces 0 p = [p] := by
        have hsplit := hp.undivided.commaPieces 0 []
        rwa [List.append_nil, commaPieces, foldr_extendFirst, List.append_nil] at hsplit
      rw [joined_singleton, hone, List.map_singleton, hp.bare.trim]
    | cons q pieces =>
      have hrest := ih (by simp) fun p hp => h p (List.mem_cons_of_mem _ hp)
      have hsome : commaPieces 0 (joined (q :: pieces)) ≠ [] := by
        intro hnil
        simp [hnil] at hrest
      rw [joined_cons_cons, hp.undivided.commaPieces, commaPieces_comma,
        commaPieces_char (by decide), foldr_extendFirst, List.append_nil, List.map_cons,
        hp.bare.trim]
      rw [show depthAfter 0 ' ' = 0 from rfl, map_trim_extendFirst hsome, hrest]

theorem joined_ne_nil {p : List Char} (hp : p ≠ []) (pieces : List (List Char)) :
    joined (p :: pieces) ≠ [] := by
  cases pieces with
  | nil => simpa [joined] using hp
  | cons q pieces => simp [joined_cons_cons]

theorem head?_joined {p : List Char} (hp : p ≠ []) (pieces : List (List Char)) :
    (joined (p :: pieces)).head? = p.head? := by
  cases pieces with
  | nil => rw [joined_singleton]
  | cons q pieces => rw [joined_cons_cons, List.head?_append_of_ne_nil _ hp]

theorem bare_joined {pieces : List (List Char)} (h : ∀ p ∈ pieces, Piece p) :
    Text.Bare (joined pieces) := by
  induction pieces with
  | nil => exact ⟨by simp [joined], by simp [joined]⟩
  | cons p pieces ih =>
    have hp := h p List.mem_cons_self
    cases pieces with
    | nil => simpa only [joined_singleton] using hp.bare
    | cons q pieces =>
      have hrest := ih fun p hp => h p (List.mem_cons_of_mem _ hp)
      have hq : q ≠ [] := (h q (by simp)).ne_nil
      rw [joined_cons_cons]
      exact hp.bare.append hrest hp.ne_nil (joined_ne_nil hq pieces) [',', ' ']

theorem balanced_joined {pieces : List (List Char)} (h : ∀ p ∈ pieces, Piece p) :
    Balanced (joined pieces) := by
  induction pieces with
  | nil => exact .nil
  | cons p pieces ih =>
    have hp := (h p List.mem_cons_self).undivided.nested.balanced
    cases pieces with
    | nil => simpa only [joined_singleton] using hp
    | cons q pieces =>
      have hrest := ih fun p hp => h p (List.mem_cons_of_mem _ hp)
      rw [joined_cons_cons]
      exact hp.append (.char (by decide) (by decide) (.char (by decide) (by decide) hrest))

/-- A printed list is split into its pieces, unless it stands for no parameters. -/
theorem parameterTypes_joined {pieces : List (List Char)} (hne : pieces ≠ [])
    (h : ∀ p ∈ pieces, Piece p) (hvoid : pieces ≠ [noParameters]) :
    parameterTypes (joined pieces) = pieces.filter (· != variadicMark) := by
  have hpieces := map_trim_commaPieces_joined hne h
  have hnil : joined pieces ≠ [] := by
    obtain ⟨p, rest, rfl⟩ := List.exists_cons_of_ne_nil hne
    exact joined_ne_nil (h p List.mem_cons_self).ne_nil rest
  have hno : joined pieces ≠ noParameters := by
    intro hj
    rw [hj] at hpieces
    exact hvoid (hpieces.symm.trans (by decide +kernel))
  unfold parameterTypes
  simp only [(bare_joined h).trim, beq_iff_eq, hnil, hno, Bool.or_eq_true, or_self, if_false]
  rw [hpieces]
  apply List.filter_congr
  intro p hp
  simp [(h p hp).ne_nil]

/-- The spelling of a type that can stand in a parameter list. -/
structure ParameterSpelling where
  text : List Char
  piece : Piece text
  ne_variadic : text ≠ variadicMark
  unmarked : ∀ c ∈ text.head?, isPointerMark c = false

/-- What stands between the parentheses of a parameter list: types, and then possibly the mark of a
variable number of arguments. A list without types may be written out. -/
structure ParameterText where
  types : List ParameterSpelling
  ending : List (List Char)
  ending_eq : ending = [] ∨ ending = [variadicMark] ∨ types = [] ∧ ending = [noParameters]
  ne_void : types.map (·.text) ≠ [noParameters]

namespace ParameterText

def pieces (l : ParameterText) : List (List Char) := l.types.map (·.text) ++ l.ending

def contents (l : ParameterText) : List Char := joined l.pieces

theorem piece_ending {l : ParameterText} {p : List Char} (h : p ∈ l.ending) :
    Piece p ∧ ∀ c ∈ p.head?, isPointerMark c = false := by
  have hp : p = variadicMark ∨ p = noParameters := by
    rcases l.ending_eq with he | he | ⟨-, he⟩ <;> simp [he] at h <;> simp [h]
  rcases hp with rfl | rfl
  · exact ⟨⟨by decide, ⟨by decide, by decide⟩, undivided_of_plain (by decide)⟩, by decide⟩
  · exact ⟨⟨by decide, ⟨by decide, by decide⟩, undivided_of_plain (by decide)⟩, by decide⟩

theorem piece {l : ParameterText} {p : List Char} (h : p ∈ l.pieces) :
    Piece p ∧ ∀ c ∈ p.head?, isPointerMark c = false := by
  rcases List.mem_append.1 h with h | h
  · obtain ⟨t, -, rfl⟩ := List.mem_map.1 h
    exact ⟨t.piece, t.unmarked⟩
  · exact piece_ending h

theorem balanced_contents (l : ParameterText) : Balanced l.contents :=
  balanced_joined fun _ hp => (piece hp).1

/-- A parameter list is not taken for a declarator group. -/
theorem unmarked_contents (l : ParameterText) :
    (Text.trimStart l.contents).head?.any isPointerMark = false := by
  have hbare : Text.Bare l.contents := bare_joined fun _ hp => (piece hp).1
  rw [Text.trimStart_of_first hbare.first]
  unfold contents
  cases hl : l.pieces with
  | nil => rfl
  | cons p rest =>
    have hmem : p ∈ l.pieces := by simp [hl]
    obtain ⟨hp, hmark⟩ := piece hmem
    rw [head?_joined hp.ne_nil]
    cases hh : p.head? with
    | none => rfl
    | some c => exact hmark c hh

/-- The types of a printed list are the ones it has been printed from. -/
theorem parameterTypes_contents (l : ParameterText) :
    parameterTypes l.contents = l.types.map (·.text) := by
  have hkept : (l.types.map (·.text)).filter (· != variadicMark) = l.types.map (·.text) := by
    rw [List.filter_eq_self]
    intro p hp
    obtain ⟨t, -, rfl⟩ := List.mem_map.1 hp
    simpa using t.ne_variadic
  have hpieces : ∀ p ∈ l.pieces, Piece p := fun _ hp => (piece hp).1
  unfold contents
  unfold pieces at hpieces ⊢
  rcases l.ending_eq with he | he | ⟨ht, he⟩
  · rw [he, List.append_nil] at hpieces ⊢
    by_cases hnil : l.types.map (·.text) = []
    · rw [hnil]
      rfl
    · rw [parameterTypes_joined hnil hpieces l.ne_void, hkept]
  · rw [he] at hpieces ⊢
    have hvoid : l.types.map (·.text) ++ [variadicMark] ≠ [noParameters] := by
      intro h
      have hlast := congrArg List.getLast? h
      rw [List.getLast?_append_cons] at hlast
      revert hlast
      decide
    rw [parameterTypes_joined (by simp) hpieces hvoid, List.filter_append, hkept]
    simp
  · rw [ht, he]
    decide +kernel

end ParameterText
end CSymbols.Spelling
