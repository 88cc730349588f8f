import CSymbols.Url.Host

/-! Absolute addresses of resources. Only whether a text is one is looked at: what stands behind the
host can be anything. -/
namespace CSymbols.Url

/-- What a scheme says about the rest of an address. -/
inductive Kind where
  /-- There is always a host, which is looked up. -/
  | network
  | file
  | other
  deriving DecidableEq, Repr

def Kind.of (scheme : String) : Kind :=
  if ["http", "https", "ws", "wss", "ftp"].contains scheme then .network
  else if scheme == "file" then .file
  else .other

/-- A text without the controls and spaces around it, and without tabs and newlines inside. -/
def tidy (cs : List Char) : List Char :=
  let isMargin (c : Char) : Bool := c.toNat ≤ 0x20
  ((cs.dropWhile isMargin).reverse.dropWhile isMargin).reverse.filter fun c =>
    c != '\t' && c != '\n' && c != '\r'

/-- The scheme and the text behind its colon: a letter, and further letters, digits, plus signs,
hyphens and dots. -/
def scheme? : List Char → Option (String × List Char)
  | [] => none
  | c :: cs =>
    let isPart (c : Char) : Bool := c.isAlphanum || c == '+' || c == '-' || c == '.'
    match cs.dropWhile isPart with
    | ':' :: rest =>
      if c.isAlpha then
        some (String.ofList ((c :: cs.takeWhile isPart).map Char.toLower), rest)
      else none
    | _ => none

/-- Where a host ends at the latest. -/
def isEnd (kind : Kind) (c : Char) : Bool :=
  c == '/' || c == '?' || c == '#' || (kind == .network && c == '\\')

/-- The text behind the name of a user, and whether there is such a name or a password. -/
def pastUser (kind : Kind) (cs : List Char) : Except Fault (Bool × List Char) :=
  let head := cs.takeWhile fun c => !isEnd kind c
  let host := (head.reverse.takeWhile (· != '@')).reverse
  let rest := host ++ cs.drop head.length
  if host.length == head.length then .ok (false, cs)
  else
    match head.take (head.length - host.length - 1) with
    | [] => if rest.head?.any (isEnd kind) then .error .emptyHost else .ok (false, rest)
    | user => .ok (user != [':'], rest)

/-- The host, which ends at a colon outside of brackets, and the text behind it. -/
def cutHost (kind : Kind) (inBrackets : Bool) : List Char → List Char × List Char
  | [] => ([], [])
  | c :: cs =>
    if (c == ':' && !inBrackets) || isEnd kind c then ([], c :: cs)
    else
      let (host, rest) := cutHost kind (c == '[' || (inBrackets && c != ']')) cs
      (c :: host, rest)

/-- A port: a number of 16 bits, or nothing. -/
def checkPort (cs : List Char) : Except Fault Unit :=
  let digits := cs.takeWhile Char.isDigit
  let isOver := match cs.dropWhile Char.isDigit with
    | [] => true
    | c :: _ => c == '/' || c == '\\' || c == '?' || c == '#'
  if Text.decimalValue digits < 65536 && isOver then .ok () else .error .port

/-- User, host and port. -/
def checkAuthority (kind : Kind) (cs : List Char) : Except Fault Unit := do
  let (named, cs) ← pastUser kind cs
  let (host, rest) := cutHost kind false cs
  if kind == .network then
    if host.isEmpty then throw .emptyHost
    Host.check host
  else
    Host.checkFree host
  if let ':' :: port := rest then
    if host.isEmpty then throw .emptyHost
    checkPort port
  if host.isEmpty && named then throw .emptyHost

/-- A letter that names a drive, in place of a host. -/
def isDrive : List Char → Bool
  | [c, mark] => c.isAlpha && (mark == ':' || mark == '|')
  | _ => false

/-- The host of a file, which may be missing. -/
def checkFileHost (cs : List Char) : Except Fault Unit :=
  let host := cs.takeWhile fun c => !isEnd .network c
  if host.isEmpty || isDrive host then .ok () else Host.check host

def isSlash (c : Char) : Bool := c == '/' || c == '\\'

/-- Whether a text is an absolute address; if not, what is wrong with it. -/
def check (text : String) : Except Fault Unit :=
  match scheme? (tidy text.toList) with
  | none => .error .noScheme
  | some (scheme, rest) =>
    match Kind.of scheme, rest with
    | .network, rest => checkAuthority .network (rest.dropWhile isSlash)
    | .file, a :: b :: rest =>
      if isSlash a && isSlash b then checkFileHost rest else .ok ()
    | .other, '/' :: '/' :: rest => checkAuthority .other rest
    | _, _ => .ok ()

end CSymbols.Url
