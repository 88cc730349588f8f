import CSymbols.Text.Decimal

/-! Strings, numbers, dates and times of TOML. Each function takes a text and returns what stands
at its front and the text behind that. -/
namespace CSymbols.Toml

def isTomlBlank (c : Char) : Bool := c == ' ' || c == '\t'

/-- Whether a character may stand for itself in strings and comments. -/
def isPlain (c : Char) : Bool := c == '\t' || 0x20 ≤ c.toNat && c.toNat != 0x7F

/-- The text behind a newline, which may have a carriage return before it. -/
def newline? : List Char → Option (List Char)
  | '\n' :: cs => some cs
  | '\r' :: '\n' :: cs => some cs
  | _ => none

/-- The character that a letter behind a backslash stands for. -/
def escaped? : Char → Option Char
  | 'b' => some '\x08'
  | 'f' => some '\x0c'
  | 'n' => some '\n'
  | 'r' => some '\r'
  | 't' => some '\t'
  | '"' => some '"'
  | '\\' => some '\\'
  | _ => none

/-- The character of a code point in hexadecimal. -/
def codePoint? (digits : List Char) : Option Char :=
  (Text.digitsValue? 16 digits).bind fun n => if n.isValidChar then some (Char.ofNat n) else none

/-- Puts a character in front of the text read. -/
def before (c : Char) (r : List Char × List Char) : List Char × List Char := (c :: r.1, r.2)

/-- A basic string behind its opening quote. -/
def basicString? : List Char → Option (List Char × List Char)
  | [] => none
  | '"' :: cs => some ([], cs)
  | '\\' :: 'u' :: a :: b :: c :: d :: cs =>
    match codePoint? [a, b, c, d] with
    | none => none
    | some x => (basicString? cs).map (before x)
  | '\\' :: 'U' :: a :: b :: c :: d :: e :: f :: g :: h :: cs =>
    match codePoint? [a, b, c, d, e, f, g, h] with
    | none => none
    | some x => (basicString? cs).map (before x)
  | '\\' :: e :: cs =>
    match escaped? e with
    | none => none
    | some x => (basicString? cs).map (before x)
  | c :: cs => if isPlain c && c != '\\' then (basicString? cs).map (before c) else none

/-- A basic string of several lines behind its opening quotes. A backslash at the end of a line
drops all blanks and newlines up to the next other character; `dropping` tells that they are being
dropped. Up to two quotes may stand right before the closing ones. -/
def basicLines? (dropping : Bool) : List Char → Option (List Char × List Char)
  | [] => none
  | '"' :: '"' :: '"' :: '"' :: '"' :: cs => some (['"', '"'], cs)
  | '"' :: '"' :: '"' :: '"' :: cs => some (['"'], cs)
  | '"' :: '"' :: '"' :: cs => some ([], cs)
  | '\r' :: '\n' :: cs =>
    if dropping then basicLines? true cs else (basicLines? false cs).map (before '\n')
  | '\\' :: 'u' :: a :: b :: c :: d :: cs =>
    match codePoint? [a, b, c, d] with
    | none => none
    | some x => (basicLines? false cs).map (before x)
  | '\\' :: 'U' :: a :: b :: c :: d :: e :: f :: g :: h :: cs =>
    match codePoint? [a, b, c, d, e, f, g, h] with
    | none => none
    | some x => (basicLines? false cs).map (before x)
  | '\\' :: e :: cs =>
    match escaped? e with
    | some x => (basicLines? false cs).map (before x)
    | none =>
      if (newline? ((e :: cs).dropWhile isTomlBlank)).isSome then basicLines? true cs else none
  | c :: cs =>
    if c == '\n' then
      if dropping then basicLines? true cs else (basicLines? false cs).map (before c)
    else if dropping && isTomlBlank c then basicLines? true cs
    else if isPlain c && c != '\\' then (basicLines? false cs).map (before c)
    else none

/-- A literal string behind its opening quote. -/
def literalString? : List Char → Option (List Char × List Char)
  | [] => none
  | '\'' :: cs => some ([], cs)
  | c :: cs => if isPlain c then (literalString? cs).map (before c) else none

/-- A literal string of several lines behind its opening quotes. -/
def literalLines? : List Char → Option (List Char × List Char)
  | [] => none
  | '\'' :: '\'' :: '\'' :: '\'' :: '\'' :: cs => some (['\'', '\''], cs)
  | '\'' :: '\'' :: '\'' :: '\'' :: cs => some (['\''], cs)
  | '\'' :: '\'' :: '\'' :: cs => some ([], cs)
  | '\r' :: '\n' :: cs => (literalLines? cs).map (before '\n')
  | c :: cs => if isPlain c || c == '\n' then (literalLines? cs).map (before c) else none

/-- A newline right behind the quotes that open several lines does not count. -/
def afterOpening (cs : List Char) : List Char := (newline? cs).getD cs

/-- A string of any of the four forms. -/
def string? : List Char → Option (List Char × List Char)
  | '"' :: '"' :: '"' :: cs => basicLines? false (afterOpening cs)
  | '"' :: cs => basicString? cs
  | '\'' :: '\'' :: '\'' :: cs => literalLines? (afterOpening cs)
  | '\'' :: cs => literalString? cs
  | _ => none

/-- Further digits; an underscore may stand between two. -/
def moreDigits? (isDigit : Char → Bool) : List Char → Option (List Char × List Char)
  | [] => some ([], [])
  | '_' :: d :: cs => if isDigit d then (moreDigits? isDigit cs).map (before d) else none
  | c :: cs =>
    if isDigit c then (moreDigits? isDigit cs).map (before c)
    else if c == '_' then none
    else some ([], c :: cs)

/-- One or more digits. -/
def digits? (isDigit : Char → Bool) : List Char → Option (List Char × List Char)
  | d :: cs => if isDigit d then (moreDigits? isDigit cs).map (before d) else none
  | [] => none

/-- A sign, which is true for minus, or none. -/
def sign : List Char → Bool × List Char
  | '-' :: cs => (true, cs)
  | '+' :: cs => (false, cs)
  | cs => (false, cs)

/-- A zero alone, or decimal digits that begin with another one. -/
def whole? : List Char → Option (List Char × List Char)
  | '0' :: cs => some (['0'], cs)
  | cs => digits? Char.isDigit cs

/-- An exponent behind its mark. -/
def exponent? (cs : List Char) : Option (Int × List Char) :=
  let (negative, cs) := sign cs
  (digits? Char.isDigit cs).map fun (digits, rest) =>
    (if negative then -(Text.decimalValue digits : Int) else Text.decimalValue digits, rest)

/-- Whether `digits · 10^exponent` rounds to infinity as a double: whether it is not below the
middle between the largest double and the power of two above. -/
def overflows (digits : List Char) (exponent : Int) : Bool :=
  let digits := digits.dropWhile (· == '0')
  let size : Int := digits.length + exponent
  let bound := Nat.pow 2 1024 - Nat.pow 2 970
  if digits == [] || size < 300 then false
  else if 310 < size then true
  else
    match exponent with
    | .ofNat e => bound ≤ Text.decimalValue digits * Nat.pow 10 e
    | .negSucc e => bound * Nat.pow 10 (e + 1) ≤ Text.decimalValue digits

/-- The fraction and the exponent of a number with the given digits before its point. Neither makes
it whole; a positive number that rounds to infinity is refused. -/
def fractional? (negative : Bool) (whole : List Char) (cs : List Char) :
    Option (Bool × List Char) := do
  let (fraction, cs) ← match cs with
    | '.' :: cs => (digits? Char.isDigit cs).map fun r => (some r.1, r.2)
    | cs => some (none, cs)
  let (exponent, cs) ← match cs with
    | 'e' :: cs | 'E' :: cs => (exponent? cs).map fun r => (some r.1, r.2)
    | cs => some (none, cs)
  if fraction.isNone && exponent.isNone then return (false, cs)
  let places := fraction.getD []
  if !negative && overflows (whole ++ places) (exponent.getD 0 - places.length) then none
  return (true, cs)

/-- A number of the given base behind its mark, below 2^63. -/
def based? (base : Nat) (cs : List Char) : Option (Int × List Char) := do
  let (digits, rest) ← digits? (fun c => (Text.hexDigit? c).any (· < base)) cs
  let n ← Text.digitsValue? base digits
  if n < 9223372036854775808 then some (n, rest) else none

/-- A whole number that fits in 64 bits, or `none` for one with a fraction or an exponent. -/
def decimalNumber? (cs : List Char) : Option (Option Int × List Char) := do
  let (negative, cs) := sign cs
  let (whole, cs) ← whole? cs
  let (isFloat, rest) ← fractional? negative whole cs
  if isFloat then return (none, rest)
  let n : Int := Text.decimalValue whole
  let n := if negative then -n else n
  if -9223372036854775808 ≤ n && n < 9223372036854775808 then some (some n, rest) else none

/-- The names for what is no finite number. -/
def special? (cs : List Char) : Option (List Char) :=
  match (sign cs).2 with
  | 'i' :: 'n' :: 'f' :: rest => some rest
  | 'n' :: 'a' :: 'n' :: rest => some rest
  | _ => none

/-- So many digits exactly, and their value. -/
def fixed? (count : Nat) (cs : List Char) : Option (Nat × List Char) :=
  let digits := cs.take count
  if digits.length == count && digits.all Char.isDigit then
    some (Text.decimalValue digits, cs.drop count)
  else none

/-- The text behind a given character. -/
def past? (c : Char) : List Char → Option (List Char)
  | d :: cs => if d == c then some cs else none
  | [] => none

def isLeapYear (year : Nat) : Bool := year % 4 == 0 && (year % 100 != 0 || year % 400 == 0)

def daysInMonth (year month : Nat) : Nat :=
  if month == 2 then if isLeapYear year then 29 else 28
  else if month == 4 || month == 6 || month == 9 || month == 11 then 30
  else 31

/-- A date; the text behind it. -/
def date? (cs : List Char) : Option (List Char) := do
  let (year, cs) ← fixed? 4 cs
  let (month, cs) ← fixed? 2 (← past? '-' cs)
  let (day, cs) ← fixed? 2 (← past? '-' cs)
  if 1 ≤ month && month ≤ 12 && 1 ≤ day && day ≤ daysInMonth year month then some cs else none

/-- Hours and minutes; the text behind them. -/
def hourMinute? (cs : List Char) : Option (List Char) := do
  let (hour, cs) ← fixed? 2 cs
  let (minute, cs) ← fixed? 2 (← past? ':' cs)
  if hour ≤ 23 && minute ≤ 59 then some cs else none

/-- A time of the day, which may be a leap second and have a fraction; the text behind it. -/
def time? (cs : List Char) : Option (List Char) := do
  let (second, cs) ← fixed? 2 (← past? ':' (← hourMinute? cs))
  if 60 < second then none
  match cs with
  | '.' :: rest =>
    let places := rest.takeWhile Char.isDigit
    if places == [] then some cs else some (rest.dropWhile Char.isDigit)
  | cs => some cs

/-- A distance from universal time, or none; the text behind it. -/
def offset? : List Char → Option (List Char)
  | 'Z' :: cs | 'z' :: cs => some cs
  | '+' :: cs | '-' :: cs => hourMinute? cs
  | cs => some cs

/-- A date, a time, or both with or without a distance from universal time; the text behind. -/
def datetime? (cs : List Char) : Option (List Char) :=
  match date? cs with
  | none => time? cs
  | some rest =>
    match rest with
    | 'T' :: cs | 't' :: cs | ' ' :: cs =>
      match time? cs with
      | none => some rest
      | some cs => offset? cs
    | rest => some rest

end CSymbols.Toml
