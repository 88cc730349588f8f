import CSymbols.Proofs.JsonText

/-! Texts with one item or member a line. Blanks between tokens do not count, so that the indented
text of a value has the tokens of the compact one, and either is read back as the value. -/
namespace CSymbols.Json

theorem tokens_blanks {bs : List Char} (h : ∀ c ∈ bs, isJsonBlank c) (cs : List Char) :
    tokens (bs ++ cs) = tokens cs := by
  induction bs with
  | nil => rfl
  | cons b bs ih =>
    have hb : isJsonBlank b := h b List.mem_cons_self
    rw [List.cons_append, tokens_blank hb]
    exact ih fun c hc => h c (List.mem_cons_of_mem b hc)

theorem tokens_freshLine (level : Nat) (cs : List Char) :
    tokens (freshLine level ++ cs) = tokens cs := by
  apply tokens_blanks
  intro c hc
  rcases List.mem_cons.1 hc with hc | hc
  · rw [hc]
    decide
  · rw [List.eq_of_mem_replicate hc]
    decide

theorem tokens_prettyMember (level : Nat) (key : Option String) {cs : List Char} {ts : List Token}
    (h : tokens cs = some ts) :
    tokens (freshLine level ++ quote key ++ ':' :: ' ' :: cs) =
      some (.string key :: .colon :: ts) := by
  have hspace : tokens (' ' :: cs) = some ts := by
    rw [tokens_blank (by decide), h]
  rw [List.append_assoc, tokens_freshLine]
  exact tokens_member hspace

theorem prettyChars_array (level : Nat) (v : Json) (vs : List Json) :
    prettyChars level (.array (v :: vs)) =
      '[' :: (prettyItems (level + 1) (v :: vs) ++ freshLine level) ++ [']'] := by
  rw [prettyChars]
  simp

theorem prettyChars_object (level : Nat) (m : Option String × Json)
    (ms : List (Option String × Json)) :
    prettyChars level (.object (m :: ms)) =
      '\x7b' :: (prettyMembers (level + 1) (m :: ms) ++ freshLine level) ++ ['\x7d'] := by
  rw [prettyChars]
  simp

theorem tokens_append_freshLine {cs : List Char} {ts : List Token} (h : tokens cs = some ts)
    (level : Nat) : tokens (cs ++ freshLine level) = some ts := by
  have hline : tokens (freshLine level) = some [] := by
    have hblank := tokens_freshLine level []
    rwa [List.append_nil, tokens_nil] at hblank
  have hd : Delimits '\n' := by decide
  have happ := tokens_append h hd (List.replicate (4 * level) ' ')
  change tokens (cs ++ freshLine level) = (tokens (freshLine level)).map (ts ++ ·) at happ
  rw [happ, hline]
  simp

mutual

/-- The tokens of the indented text of a value are those that spell it. -/
theorem tokens_prettyChars (level : Nat) (v : Json) (h : Proper v) :
    tokens (prettyChars level v) = some (spelling v) := by
  match v with
  | .null | .bool _ | .number _ | .string _ => exact tokens_compactChars _ h
  | .array [] => exact tokens_brackets tokens_nil
  | .object [] => exact tokens_braces tokens_nil
  | .array (v :: vs) =>
    have hv := tokens_prettyChars (level + 1) v h.1
    have hitems := tokens_prettyItems (level + 1) v vs hv h.2
    have hline := tokens_append_freshLine hitems level
    rw [prettyChars_array, spelling, tokens_brackets hline, List.append_assoc]
  | .object ((key, v) :: ms) =>
    have hv := tokens_prettyChars (level + 1) v h.1
    have hmembers := tokens_prettyMembers (level + 1) key v ms hv h.2
    have hline := tokens_append_freshLine hmembers level
    rw [prettyChars_object, spelling, tokens_braces hline]
    simp

theorem tokens_prettyItems (level : Nat) (v : Json) (vs : List Json)
    (hv : tokens (prettyChars level v) = some (spelling v)) (hs : ProperItems vs) :
    tokens (prettyItems level (v :: vs)) = some (spelling v ++ moreItems vs) := by
  have hfirst : tokens (freshLine level ++ prettyChars level v) = some (spelling v) := by
    rw [tokens_freshLine, hv]
  match vs with
  | [] => rw [prettyItems, moreItems, List.append_nil, hfirst]
  | w :: ws =>
    have hw := tokens_prettyChars level w hs.1
    have hmore := tokens_prettyItems level w ws hw hs.2
    rw [prettyItems, tokens_append hfirst (by decide), tokens_comma, hmore, moreItems]
    · rfl
    · simp

theorem tokens_prettyMembers (level : Nat) (key : Option String) (v : Json)
    (ms : List (Option String × Json))
    (hv : tokens (prettyChars level v) = some (spelling v)) (hs : ProperMembers ms) :
    tokens (prettyMembers level ((key, v) :: ms)) =
      some (.string key :: .colon :: (spelling v ++ moreMembers ms)) := by
  have hfirst := tokens_prettyMember level key hv
  match ms with
  | [] => rw [prettyMembers, moreMembers, List.append_nil, hfirst]
  | (key', w) :: ms =>
    have hw := tokens_prettyChars level w hs.1
    have hmore := tokens_prettyMembers level key' w ms hw hs.2
    rw [prettyMembers, tokens_append hfirst (by decide), tokens_comma, hmore, moreMembers]
    · rfl
    · simp

end

theorem parse?_pretty {v : Json} (h : Proper v) : parse? (pretty v) = some v := by
  rw [parse?_eq_some_iff, pretty, String.toList_ofList]
  exact tokens_prettyChars 0 v h

theorem parse?_compact {v : Json} (h : Proper v) : parse? (compact v) = some v := by
  rw [parse?_eq_some_iff]
  exact tokens_compact h

theorem proper_record {ms : List (String × Json)} (h : ∀ m ∈ ms, Proper m.2) :
    Proper (record ms) := by
  change ProperMembers (ms.map fun m => (some m.1, m.2))
  induction ms with
  | nil => exact trivial
  | cons m ms ih =>
    have hm : Proper m.2 := h m List.mem_cons_self
    exact ⟨hm, ih fun n hn => h n (List.mem_cons_of_mem m hn)⟩

end CSymbols.Json
