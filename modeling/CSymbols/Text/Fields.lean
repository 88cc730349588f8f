/-! Cutting a text at characters of a kind. -/
namespace CSymbols.Text

/-- The parts of a text before, between and behind the characters of a kind; there is one part more
than there are such characters. -/
def fields (isMark : Char → Bool) : List Char → List (List Char)
  | [] => [[]]
  | c :: cs =>
    if isMark c then [] :: fields isMark cs
    else
      match fields isMark cs with
      | [] => [[c]]
      | field :: rest => (c :: field) :: rest

theorem fields_length (isMark : Char → Bool) (cs : List Char) :
    (fields isMark cs).length = cs.countP isMark + 1 := by
  induction cs with
  | nil => rfl
  | cons c cs ih =>
    unfold fields
    split
    · rename_i h
      simp [ih, h]
    · rename_i h
      split
      · rename_i hnil
        simp [hnil] at ih
      · rename_i field rest hcons
        simp only [hcons, List.length_cons] at ih
        simp [h, ih]

end CSymbols.Text
