import CSymbols.Toml.Scalar

/-! Texts that are dates or times as a whole. Their hours and their distances from universal time
go one step further than those of dates that stand in a document without quotes. -/
namespace CSymbols.Toml.Timestamp

/-- A time of the day, up to hour 24; the text behind it. -/
def time? (cs : List Char) : Option (List Char) := do
  let (hour, cs) ← fixed? 2 cs
  let (minute, cs) ← fixed? 2 (← past? ':' cs)
  let (second, cs) ← fixed? 2 (← past? ':' cs)
  if 24 < hour || 59 < minute || 60 < second then none
  match cs with
  | '.' :: rest =>
    if (rest.head?.map Char.isDigit).getD false then some (rest.dropWhile Char.isDigit) else none
  | cs => some cs

/-- A distance from universal time, at most a day, or none, up to the end of the text. -/
def isOffset : List Char → Bool
  | [] | ['Z'] | ['z'] => true
  | '+' :: cs | '-' :: cs =>
    ((do
      let (hours, cs) ← fixed? 2 cs
      let (minutes, cs) ← fixed? 2 (← past? ':' cs)
      return cs.isEmpty && 60 * hours + minutes ≤ 1440) : Option Bool).getD false
  | _ => false

/-- A time alone, or a date, behind which a time and a distance from universal time may stand. -/
def isTimestamp (cs : List Char) : Bool :=
  if cs[2]? == some ':' then time? cs == some []
  else
    match date? cs with
    | none => false
    | some ('T' :: cs) | some ('t' :: cs) | some (' ' :: cs) => (time? cs).any isOffset
    | some rest => rest.isEmpty

end CSymbols.Toml.Timestamp
