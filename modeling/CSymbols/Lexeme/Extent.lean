/-! How far each kind of lexeme reaches. Every function cuts a text in two; the first part belongs
to the lexeme. -/
namespace CSymbols.Lexeme

/-- The blanks that may stand inside a line. -/
def isSpace (c : Char) : Bool :=
  c == ' ' || c == '\t' || c == '\r' || c == '\x0c' || c == '\x0b'

def isLetter (c : Char) : Bool := c.isAlpha || c == '_'

def isIdentifierRest (c : Char) : Bool := c.isAlphanum || c == '_'

def isNumberRest (c : Char) : Bool := c.isAlphanum || c == '_' || c == '.' || c == '\''

/-- Puts characters in front of the first part. -/
def ahead (taken : List Char) (r : List Char × List Char) : List Char × List Char :=
  (taken ++ r.1, r.2)

/-- The rest of a line. A backslash takes the next character along, so that a newline behind it
continues the line; a backslash, a carriage return and a newline do so as well. A backslash at the
end of the text is left over. -/
def restOfLine : List Char → List Char × List Char
  | [] => ([], [])
  | '\\' :: '\r' :: '\n' :: cs => ahead ['\\', '\r', '\n'] (restOfLine cs)
  | '\\' :: c :: cs => ahead ['\\', c] (restOfLine cs)
  | ['\\'] => ([], ['\\'])
  | c :: cs => if c == '\n' then ([], c :: cs) else ahead [c] (restOfLine cs)

/-- The text behind `/*` up to and with the first `*/`. -/
def restOfBlock : List Char → Option (List Char × List Char)
  | [] => none
  | '*' :: '/' :: cs => some (['*', '/'], cs)
  | c :: cs => (restOfBlock cs).map (ahead [c])

/-- The text up to and with the next double quote. -/
def restOfRaw : List Char → Option (List Char × List Char)
  | [] => none
  | c :: cs => if c == '"' then some ([c], cs) else (restOfRaw cs).map (ahead [c])

/-- The text behind an opening quote, and whether the literal is closed there. A backslash takes
the next character along; a newline ends the literal unclosed, as does the end of the text. -/
def restOfLiteral (quote : Char) : List Char → Bool × List Char × List Char
  | [] => (false, [], [])
  | '\\' :: c :: cs => (restOfLiteral quote cs).map id (ahead ['\\', c])
  | ['\\'] => (false, ['\\'], [])
  | c :: cs =>
    if c == quote then (true, [c], cs)
    else if c == '\n' then (false, [], c :: cs)
    else (restOfLiteral quote cs).map id (ahead [c])

theorem ahead_append (taken : List Char) (r : List Char × List Char) :
    (ahead taken r).1 ++ (ahead taken r).2 = taken ++ (r.1 ++ r.2) := by
  simp [ahead]

theorem restOfLine_append (cs : List Char) : (restOfLine cs).1 ++ (restOfLine cs).2 = cs := by
  fun_induction restOfLine cs <;> simp_all [ahead_append]

theorem restOfBlock_append {cs : List Char} {r : List Char × List Char}
    (h : restOfBlock cs = some r) : r.1 ++ r.2 = cs := by
  fun_induction restOfBlock cs generalizing r with
  | case1 => simp at h
  | case2 cs => obtain rfl := Option.some.inj h; rfl
  | case3 c cs _ ih =>
    obtain ⟨s, hs, rfl⟩ := Option.map_eq_some_iff.1 h
    simp [ahead_append, ih hs]

theorem restOfRaw_append {cs : List Char} {r : List Char × List Char}
    (h : restOfRaw cs = some r) : r.1 ++ r.2 = cs := by
  induction cs generalizing r with
  | nil => simp [restOfRaw] at h
  | cons c cs ih =>
    unfold restOfRaw at h
    split at h
    · obtain rfl := Option.some.inj h; rfl
    · obtain ⟨s, hs, rfl⟩ := Option.map_eq_some_iff.1 h
      simp [ahead_append, ih hs]

theorem restOfLiteral_append (quote : Char) (cs : List Char) :
    (restOfLiteral quote cs).2.1 ++ (restOfLiteral quote cs).2.2 = cs := by
  fun_induction restOfLiteral quote cs <;> simp_all [Prod.map, ahead_append]

end CSymbols.Lexeme
