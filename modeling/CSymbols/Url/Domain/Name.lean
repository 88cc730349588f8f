import CSymbols.Text.Composition
import CSymbols.Text.Fields
import CSymbols.Url.Domain.Direction
import CSymbols.Url.Domain.Image
import CSymbols.Url.Domain.Joining
import CSymbols.Url.Domain.Punycode

/-! Domain names. A name is brought to its plain form, in which characters that stand for others
are replaced, and has to fit the rules for its labels. -/
namespace CSymbols.Url.Domain

def isAscii (cs : List Char) : Bool := cs.all (·.toNat < 0x80)

/-- The mark at the front of a label that spells characters outside ASCII. -/
def spelled? : List Char → Option (List Char)
  | 'x' :: 'n' :: '-' :: '-' :: text => some text
  | _ => none

/-- The label that is spelled behind the mark. It has to hold a character outside ASCII, and only
characters that stand for themselves, and all that can be composed has to be. -/
def unspelled? (text : List Char) : Option (List Char) :=
  if !isAscii text || text.getLast?.all (· == '-') then none
  else
    (Punycode.decode? text).filter fun label =>
      label.all (fun c => isKept c && c != '.') && Text.normal label == label

/-- A label of a plain name in its own characters: it does not begin with a mark, and joiners are
where they belong. -/
def label? (label : List Char) : Option (List Char) := do
  let label ← match spelled? label with
    | some text => unspelled? text
    | none => some label
  if label.head?.any isMark || !areJoinersPlaced [] label then none else some label

/-- The plain form of a name; `none` if it is no name. -/
def plain? (name : List Char) : Option (List Char) := do
  let plain := (← (Text.normal name).mapM image?).flatten
  let labels ← (Text.fields (· == '.') plain).mapM label?
  if areDirected labels then some plain else none

end CSymbols.Url.Domain
