/-! Paths of files. A path is a text; its components are divided by slashes, and neither empty
components nor dots count, except a dot at the very front. -/
namespace CSymbols.Path

/-- The part of a path that is no component of its own: the root, or a dot at the front. -/
def leading : List Char → List Char × List Char
  | '/' :: cs => (['/'], cs)
  | ['.'] => (['.'], [])
  | '.' :: '/' :: cs => (['.'], '/' :: cs)
  | cs => ([], cs)

/-- Drops the components at the end of a reversed path that do not count. -/
def dropIdle : List Char → List Char
  | '/' :: cs => dropIdle cs
  | ['.'] => []
  | '.' :: '/' :: cs => dropIdle cs
  | cs => cs

/-- The path without its last component; `none` if it has no component. -/
def parentChars? (path : List Char) : Option (List Char) :=
  let (lead, body) := leading path
  match dropIdle body.reverse with
  | [] => if lead = ['.'] then some [] else none
  | c :: cs => some (lead ++ (dropIdle (((c :: cs).dropWhile (· != '/')).drop 1)).reverse)

theorem leading_append (path : List Char) : (leading path).1 ++ (leading path).2 = path := by
  unfold leading
  split <;> rfl

theorem dropIdle_length (cs : List Char) : (dropIdle cs).length ≤ cs.length := by
  fun_induction dropIdle cs with
  | case1 cs ih => simp only [List.length_cons]; omega
  | case2 => exact Nat.zero_le _
  | case3 cs ih => simp only [List.length_cons]; omega
  | case4 cs => exact Nat.le_refl _

theorem dropIdle_head {cs rest : List Char} {c : Char} (h : dropIdle cs = c :: rest) :
    c ≠ '/' := by
  fun_induction dropIdle cs with
  | case1 cs ih => exact ih h
  | case2 => simp at h
  | case3 cs ih => exact ih h
  | case4 cs hslash =>
    rintro rfl
    exact hslash _ h

/-- A parent is a shorter text, so that going up comes to an end. -/
theorem parentChars?_length {path parent : List Char} (h : parentChars? path = some parent) :
    parent.length < path.length := by
  have hlen := congrArg List.length (leading_append path)
  simp only [List.length_append] at hlen
  simp only [parentChars?] at h
  split at h
  · split at h
    · rename_i hlead
      simp only [Option.some.injEq] at h
      simp only [hlead, List.length_cons, List.length_nil] at hlen
      simp only [← h, List.length_nil]
      omega
    · simp at h
  · rename_i c cs hidle
    have hc := dropIdle_head hidle
    have hle := dropIdle_length (leading path).2.reverse
    have hdrop := dropIdle_length (((c :: cs).dropWhile (· != '/')).drop 1)
    have hwhile : ((c :: cs).dropWhile (· != '/')).length ≤ cs.length := by
      rw [List.dropWhile_cons_of_pos (by simpa using hc)]
      exact (List.dropWhile_sublist _).length_le
    simp only [Option.some.injEq] at h
    simp only [hidle, List.length_reverse, List.length_cons] at hle
    simp only [← h, List.length_append, List.length_reverse]
    simp only [List.length_drop] at hdrop
    omega

/-- The path without its last component. -/
def parent? (path : String) : Option String := (parentChars? path.toList).map String.ofList

/-- The path of a file in a directory. -/
def join (directory name : String) : String :=
  match directory.toList.getLast? with
  | none => name
  | some '/' => directory ++ name
  | some _ => directory ++ "/" ++ name

/-- The last component, if it can be the name of a file. -/
def fileName? (path : String) : Option String :=
  let (_, body) := leading path.toList
  let name := ((dropIdle body.reverse).takeWhile (· != '/')).reverse
  if name == [] || name == ['.', '.'] then none else some (String.ofList name)

end CSymbols.Path
