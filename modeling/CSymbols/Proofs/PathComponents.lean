import CSymbols.Path
import CSymbols.Text.Fields
import Mathlib.Data.List.Basic
import Mathlib.Data.List.Infix
import Mathlib.Data.List.TakeWhile

/-! The components of a path, and what going up does to them: the parent of a path is the path
without its last component. -/
namespace CSymbols

namespace Text

theorem fields_ne_nil (isMark : Char → Bool) (cs : List Char) : fields isMark cs ≠ [] := by
  intro h
  have hlength := fields_length isMark cs
  rw [h] at hlength
  simp at hlength

theorem fields_append_mark {isMark : Char → Bool} {m : Char} (hm : isMark m = true)
    (cs ds : List Char) : fields isMark (cs ++ m :: ds) = fields isMark cs ++ fields isMark ds := by
  induction cs with
  | nil => simp [fields, hm]
  | cons c cs ih =>
    rw [List.cons_append, fields, fields, ih]
    split
    · rfl
    · cases hcs : fields isMark cs with
      | nil => exact absurd hcs (fields_ne_nil isMark cs)
      | cons field rest => rfl

theorem fields_of_no_mark {isMark : Char → Bool} {cs : List Char}
    (h : ∀ c ∈ cs, isMark c = false) : fields isMark cs = [cs] := by
  induction cs with
  | nil => rfl
  | cons c cs ih =>
    have hc : isMark c = false := h c List.mem_cons_self
    have hcs := ih fun d hd => h d (List.mem_cons_of_mem c hd)
    simp [fields, hc, hcs]

theorem head?_fields (isMark : Char → Bool) (cs : List Char) :
    (fields isMark cs).head? = some (cs.takeWhile fun c => !isMark c) := by
  induction cs with
  | nil => rfl
  | cons c cs ih =>
    unfold fields
    split
    · rename_i hc
      simp [hc]
    · rename_i hc
      cases hcs : fields isMark cs with
      | nil => exact absurd hcs (fields_ne_nil isMark cs)
      | cons field rest =>
        rw [hcs, List.head?_cons, Option.some.injEq] at ih
        simp [hc, ih]

end Text

namespace Path

/-- A part of a path. Two dots are a name here: nothing is looked up. -/
inductive Component where
  | root
  /-- A dot at the very front. -/
  | here
  | name (text : List Char)
  deriving DecidableEq, Repr

def parts (path : List Char) : List (List Char) := Text.fields (· == '/') path

/-- Names stand between the slashes; nothing, or a dot, is no name. -/
def names (path : List Char) : List (List Char) :=
  (parts path).filter fun part => part != [] && part != ['.']

/-- The root if the path begins with a slash, the place itself if it begins with a dot, and the
names. -/
def components (path : List Char) : List Component :=
  (if path.head? = some '/' then [.root]
    else if (parts path).head? = some ['.'] then [.here]
    else []) ++ (names path).map .name

theorem parts_append_slash (cs ds : List Char) :
    parts (cs ++ '/' :: ds) = parts cs ++ parts ds :=
  Text.fields_append_mark rfl cs ds

theorem names_append_slash (cs ds : List Char) :
    names (cs ++ '/' :: ds) = names cs ++ names ds := by
  unfold names
  rw [parts_append_slash, List.filter_append]

theorem names_slash (cs : List Char) : names ('/' :: cs) = names cs :=
  names_append_slash [] cs

theorem parts_of_no_slash {cs : List Char} (h : '/' ∉ cs) : parts cs = [cs] :=
  Text.fields_of_no_mark fun c hc => by
    rw [beq_eq_false_iff_ne]
    rintro rfl
    exact h hc

theorem names_of_no_slash {cs : List Char} (h : '/' ∉ cs) (hne : cs ≠ []) (hdot : cs ≠ ['.']) :
    names cs = [cs] := by
  simp [names, parts_of_no_slash h, hne, hdot]

theorem names_nil : names [] = [] := rfl

/-- A dot that stands alone in front of the first slash. -/
theorem takeWhile_eq_dot {cs : List Char} (h : cs.takeWhile (· != '/') = ['.']) :
    cs = ['.'] ∨ ∃ rest, cs = '.' :: '/' :: rest := by
  have hsplit : cs.takeWhile (· != '/') ++ cs.dropWhile (· != '/') = cs :=
    List.takeWhile_append_dropWhile
  have hbehind := List.head?_dropWhile_not (· != '/') cs
  rw [h, List.singleton_append] at hsplit
  rw [← hsplit]
  cases hd : cs.dropWhile (· != '/') with
  | nil => exact .inl rfl
  | cons d rest =>
    rw [hd] at hbehind
    obtain rfl : d = '/' := by simpa using hbehind
    exact .inr ⟨rest, rfl⟩

/-- What is dropped from the end of a path is no name. -/
theorem names_dropIdle (reversed : List Char) :
    names (dropIdle reversed).reverse = names reversed.reverse := by
  fun_induction dropIdle reversed with
  | case1 cs ih =>
    rw [ih, List.reverse_cons, names_append_slash]
    exact (List.append_nil _).symm
  | case2 => rfl
  | case3 cs ih =>
    have hs : ('.' :: '/' :: cs).reverse = cs.reverse ++ '/' :: ['.'] := by simp
    rw [ih, hs, names_append_slash]
    exact (List.append_nil _).symm
  | case4 cs => rfl

theorem names_of_dropIdle {path : List Char} (h : dropIdle path.reverse = []) :
    names path = [] := by
  have hnames := names_dropIdle path.reverse
  rw [h, List.reverse_reverse] at hnames
  exact hnames.symm

/-- Where nothing more is dropped, a name ends. -/
theorem takeWhile_dropIdle {reversed rest : List Char} {c : Char}
    (h : dropIdle reversed = c :: rest) :
    (c :: rest).takeWhile (· != '/') ≠ [] ∧ (c :: rest).takeWhile (· != '/') ≠ ['.'] := by
  have hc : c ≠ '/' := dropIdle_head h
  have htake : (c :: rest).takeWhile (· != '/') = c :: rest.takeWhile (· != '/') :=
    List.takeWhile_cons_of_pos (by simpa using hc)
  refine ⟨htake ▸ List.cons_ne_nil _ _, ?_⟩
  intro hdot
  have hcs := takeWhile_eq_dot hdot
  fun_induction dropIdle reversed with
  | case1 cs ih => exact ih h
  | case2 => simp at h
  | case3 cs ih => exact ih h
  | case4 cs hslash hone htwo =>
    rcases hcs with hcs | ⟨rest', hcs⟩
    · exact hone (h.trans hcs)
    · exact htwo rest' (h.trans hcs)

/-- The last name of a path, and the text before the slash in front of it. -/
theorem names_dropIdle_cons {reversed rest : List Char} {c : Char}
    (h : dropIdle reversed = c :: rest) : ∃ last,
    names reversed.reverse =
      names (((c :: rest).dropWhile (· != '/')).drop 1).reverse ++ [last] := by
  obtain ⟨hne, hdot⟩ := takeWhile_dropIdle h
  have hsplit : (c :: rest).takeWhile (· != '/') ++ (c :: rest).dropWhile (· != '/') = c :: rest :=
    List.takeWhile_append_dropWhile
  have hbehind := List.head?_dropWhile_not (· != '/') (c :: rest)
  generalize hword : (c :: rest).takeWhile (· != '/') = word at *
  generalize (c :: rest).dropWhile (· != '/') = behind at *
  have hslash : '/' ∉ word.reverse := by
    intro hmem
    rw [← hword] at hmem
    simpa using List.mem_takeWhile_imp (List.mem_reverse.1 hmem)
  have hname : names word.reverse = [word.reverse] := by
    apply names_of_no_slash hslash
    · simpa using hne
    · intro he
      apply hdot
      rw [← List.reverse_reverse word, he]
      rfl
  refine ⟨word.reverse, ?_⟩
  rw [← names_dropIdle, h, ← hsplit]
  cases behind with
  | nil => simpa [names_nil] using hname
  | cons d ds =>
    obtain rfl : d = '/' := by simpa using hbehind
    rw [List.reverse_append, List.reverse_cons, List.append_assoc, List.singleton_append,
      names_append_slash, hname]
    rfl

theorem components_eq_nil_iff {path : List Char} : components path = [] ↔ path = [] := by
  constructor
  · intro h
    cases path with
    | nil => rfl
    | cons c cs =>
      obtain ⟨hfront, hnames⟩ := List.append_eq_nil_iff.1 h
      have hslash : c ≠ '/' := by
        rintro rfl
        simp at hfront
      have hhead : (parts (c :: cs)).head? = some ((c :: cs).takeWhile (· != '/')) :=
        Text.head?_fields _ _
      have hdot : (c :: cs).takeWhile (· != '/') ≠ ['.'] := by
        intro hdot
        rw [hhead, hdot] at hfront
        simp [hslash] at hfront
      -- What stands in front of the first slash is then a name.
      have hne : (c :: cs).takeWhile (· != '/') ≠ [] := by
        rw [List.takeWhile_cons_of_pos (by simpa using hslash)]
        exact List.cons_ne_nil _ _
      have hmem : (c :: cs).takeWhile (· != '/') ∈ names (c :: cs) :=
        List.mem_filter.2 ⟨List.mem_of_head? hhead, by simp [hne, hdot]⟩
      rw [List.map_eq_nil_iff.1 hnames] at hmem
      exact absurd hmem List.not_mem_nil
  · rintro rfl
    rfl

/-- The component that the front of a path stands for. -/
def front : List Char → List Component
  | ['/'] => [.root]
  | ['.'] => [.here]
  | _ => []

theorem components_eq_front (path : List Char) :
    components path = front (leading path).1 ++ (names (leading path).2).map .name := by
  unfold leading
  split
  · rename_i cs
    simp [components, front, names_slash]
  · rfl
  · rename_i cs
    have hparts : parts ('.' :: '/' :: cs) = ['.'] :: parts cs := parts_append_slash ['.'] cs
    have hnames : names ('.' :: '/' :: cs) = names cs := names_append_slash ['.'] cs
    simp [components, front, hparts, hnames, names_slash]
  · rename_i hslash hone htwo
    have hhead : path.head? ≠ some '/' := by
      intro h
      obtain ⟨cs, rfl⟩ := List.head?_eq_some_iff.1 h
      exact hslash cs rfl
    have hdot : (parts path).head? ≠ some ['.'] := by
      intro h
      rw [parts, Text.head?_fields] at h
      rcases takeWhile_eq_dot (Option.some.inj h) with h | ⟨rest, h⟩
      · exact hone h
      · exact htwo rest h
    simp [components, front, hhead, hdot]

theorem dropIdle_suffix (cs : List Char) : dropIdle cs <:+ cs := by
  fun_induction dropIdle cs with
  | case1 cs ih => exact ih.trans (List.suffix_cons _ _)
  | case2 => exact List.nil_suffix
  | case3 cs ih => exact ih.trans ((List.suffix_cons _ _).trans (List.suffix_cons _ _))
  | case4 cs => exact List.suffix_rfl

theorem dropIdle_ne_dot (cs : List Char) : dropIdle cs ≠ ['.'] := by
  intro h
  exact (takeWhile_dropIdle h).2 rfl

/-- The front of a path is that of every text that is cut off behind one of its components. -/
theorem leading_append_of_prefix {path body : List Char} (hb : body <+: (leading path).2)
    (hdot : body ≠ ['.']) : leading ((leading path).1 ++ body) = ((leading path).1, body) := by
  unfold leading at hb ⊢
  split at hb
  · rfl
  · rw [List.prefix_nil.1 hb]
    rfl
  · cases body with
    | nil => rfl
    | cons c body =>
      obtain ⟨rfl, -⟩ := List.cons_prefix_cons.1 hb
      rfl
  · rename_i hslash hone htwo
    have hpath : ∀ cs, cs <+: body → ∃ rest, path = cs ++ rest := by
      intro cs hcs
      obtain ⟨rest, hrest⟩ := hcs.trans hb
      exact ⟨rest, hrest.symm⟩
    split
    · rename_i cs hcs
      obtain ⟨rest, hrest⟩ := hpath ['/'] ⟨cs, hcs.symm⟩
      exact absurd hrest (hslash rest)
    · rename_i hcs
      exact absurd hcs hdot
    · rename_i cs hcs
      obtain ⟨rest, hrest⟩ := hpath ['.', '/'] ⟨cs, hcs.symm⟩
      exact absurd hrest (htwo rest)
    · rfl

/-- The parent of a path is the path without its last component, and its text is the front of the
text. -/
theorem parentChars?_eq_some {path parent : List Char} (h : parentChars? path = some parent) :
    (∃ last, last ≠ .root ∧ components path = components parent ++ [last]) ∧ parent <+: path := by
  have hpath : (leading path).1 ++ (leading path).2 = path := leading_append path
  simp only [parentChars?] at h
  split at h
  · rename_i hidle
    split at h
    · rename_i hlead
      obtain rfl : [] = parent := Option.some.inj h
      have hnames : names (leading path).2 = [] := names_of_dropIdle hidle
      refine ⟨⟨.here, by decide, ?_⟩, List.nil_prefix⟩
      rw [components_eq_front, hlead, hnames]
      rfl
    · simp at h
  · rename_i c cs hidle
    obtain ⟨last, hlast⟩ := names_dropIdle_cons hidle
    rw [List.reverse_reverse] at hlast
    generalize hbefore : ((c :: cs).dropWhile (· != '/')).drop 1 = before at h hlast
    obtain rfl := Option.some.inj h
    have hsuffix : dropIdle before <:+ (leading path).2.reverse := by
      have hdrop : before <:+ c :: cs :=
        hbefore ▸ (List.drop_suffix _ _).trans (List.dropWhile_suffix _)
      exact (dropIdle_suffix before).trans (hdrop.trans (hidle ▸ dropIdle_suffix _))
    have hprefix : (dropIdle before).reverse <+: (leading path).2 := by
      rw [← List.reverse_suffix, List.reverse_reverse]
      exact hsuffix
    have hdot : (dropIdle before).reverse ≠ ['.'] := by
      intro he
      apply dropIdle_ne_dot before
      rw [← List.reverse_reverse (dropIdle before), he]
      rfl
    constructor
    · refine ⟨.name last, by simp, ?_⟩
      rw [components_eq_front, components_eq_front ((leading path).1 ++ _),
        leading_append_of_prefix hprefix hdot, names_dropIdle, hlast]
      simp
    · obtain ⟨rest, hrest⟩ := hprefix
      refine ⟨rest, ?_⟩
      rw [List.append_assoc, hrest, hpath]

/-- Only the root and the empty path have no parent. -/
theorem parentChars?_eq_none_iff {path : List Char} : parentChars? path = none ↔
    components path = [] ∨ components path = [.root] := by
  constructor
  · intro h
    simp only [parentChars?] at h
    split at h
    · rename_i hidle
      have hnames : names (leading path).2 = [] := names_of_dropIdle hidle
      split at h
      · simp at h
      · rename_i hlead
        rw [components_eq_front, hnames]
        unfold front
        split
        · exact .inr rfl
        · contradiction
        · exact .inl rfl
    · simp at h
  · intro h
    cases hp : parentChars? path with
    | none => rfl
    | some parent =>
      obtain ⟨⟨last, hne, hlast⟩, -⟩ := parentChars?_eq_some hp
      rw [hlast] at h
      rcases h with h | h
      · simp at h
      · obtain ⟨-, rfl⟩ : components parent = [] ∧ last = .root := by
          simpa using List.append_eq_cons_iff.1 h
        exact absurd rfl hne

end Path
end CSymbols
