import CSymbols.OrderedMap
import Mathlib.Data.List.Basic
import Mathlib.Data.List.Induction

/-! Maps made by entering the items of a list one after the other: names in the order of their first
entries, with the values of their last ones. -/
namespace CSymbols.OrderedMap
variable {α β : Type}

theorem lookup_cons (name : String) (e : String × α) (es : List (String × α)) :
    (e :: es).lookup name = if name = e.1 then some e.2 else es.lookup name := by
  rw [List.lookup_cons, beq_eq_decide]
  by_cases h : name = e.1 <;> simp [h]

theorem lookup_putEntry (name name' : String) (value : α) (es : List (String × α)) :
    (putEntry name value es).lookup name' =
      if name' = name then some value else es.lookup name' := by
  induction es with
  | nil => rw [putEntry, lookup_cons]
  | cons e es ih =>
    unfold putEntry
    split_ifs with he hn hn
    · rw [lookup_cons, if_pos hn]
    · rw [lookup_cons, lookup_cons, if_neg hn, he, if_neg hn]
    · have hne : name' ≠ e.1 := fun h => he (h.symm.trans hn)
      rw [lookup_cons, ih, if_pos hn, if_neg hne]
    · rw [lookup_cons, lookup_cons, ih, if_neg hn]

theorem get?_insert (m : OrderedMap α) (name name' : String) (value : α) :
    (m.insert name value).get? name' = if name' = name then some value else m.get? name' :=
  lookup_putEntry name name' value m.entries

section Entering
variable (key : β → String) (value? : β → Option α)

/-- Enters an item under its name. An item without an entry is passed over. -/
def enter (m : OrderedMap α) (x : β) : OrderedMap α :=
  match value? x with
  | none => m
  | some value => m.insert (key x) value

def ofItems (xs : List β) : OrderedMap α := xs.foldl (enter key value?) .empty

def Entered (xs : List β) (name : String) : Prop := ∃ x ∈ xs, key x = name ∧ (value? x).isSome

/-- A name has an entry that stands in front of all entries of another one. -/
def EnteredBefore (xs : List β) (a b : String) : Prop :=
  ∃ before x after, xs = before ++ x :: after ∧ key x = a ∧ (value? x).isSome ∧
    ∀ y ∈ before, (value? y).isSome → key y ≠ b

/-- The last entry of a name has this value. -/
def LastEntered (xs : List β) (name : String) (value : α) : Prop :=
  ∃ before x after, xs = before ++ x :: after ∧ key x = name ∧ value? x = some value ∧
    ∀ y ∈ after, (value? y).isSome → key y ≠ name

/-- A map holds the names that have entries, each once, in the order of their first entries and with
the values of their last ones. -/
structure Indexes (m : OrderedMap α) (xs : List β) : Prop where
  keys_nodup : m.keys.Nodup
  mem_keys : ∀ name, name ∈ m.keys ↔ Entered key value? xs name
  keys_order : m.keys.Pairwise (EnteredBefore key value? xs)
  get? : ∀ name value, m.get? name = some value ↔ LastEntered key value? xs name value

variable {key value?}

theorem entered_concat {xs : List β} {x : β} {name : String} :
    Entered key value? (xs ++ [x]) name ↔
      Entered key value? xs name ∨ (key x = name ∧ (value? x).isSome) := by
  simp [Entered, or_and_right, exists_or]

theorem EnteredBefore.concat {xs : List β} {a b : String} (h : EnteredBefore key value? xs a b)
    (x : β) : EnteredBefore key value? (xs ++ [x]) a b := by
  obtain ⟨before, y, after, rfl, hy⟩ := h
  exact ⟨before, y, after ++ [x], by simp, hy⟩

theorem enteredBefore_of_not_entered {xs : List β} {a b : String}
    (ha : Entered key value? xs a) (hb : ¬ Entered key value? xs b) :
    EnteredBefore key value? xs a b := by
  obtain ⟨x, hx, hk, he⟩ := ha
  obtain ⟨before, after, rfl⟩ := List.append_of_mem hx
  refine ⟨before, x, after, rfl, hk, he, ?_⟩
  intro y hy hey hky
  exact hb ⟨y, by simp [hy], hky, hey⟩

theorem lastEntered_concat {xs : List β} {x : β} {name : String} {value : α} :
    LastEntered key value? (xs ++ [x]) name value ↔
      (key x = name ∧ value? x = some value) ∨
      (¬ (key x = name ∧ (value? x).isSome) ∧ LastEntered key value? xs name value) := by
  constructor
  · rintro ⟨before, y, after, he, hk, hv, hlast⟩
    rcases List.eq_nil_or_concat after with rfl | ⟨after, z, rfl⟩
    · obtain ⟨rfl, rfl⟩ := List.append_singleton_inj.1 he
      exact .inl ⟨hk, hv⟩
    · rw [List.concat_eq_append] at he hlast
      rw [← List.cons_append, ← List.append_assoc] at he
      obtain ⟨rfl, rfl⟩ := List.append_singleton_inj.1 he
      refine .inr ⟨fun hx => hlast x (by simp) hx.2 hx.1, before, y, after, rfl, hk, hv, ?_⟩
      exact fun w hw => hlast w (by simp [hw])
  · rintro (⟨hk, hv⟩ | ⟨hx, before, y, after, rfl, hk, hv, hlast⟩)
    · exact ⟨xs, x, [], rfl, hk, hv, by simp⟩
    · refine ⟨before, y, after ++ [x], by simp, hk, hv, ?_⟩
      intro w hw hew hkw
      rcases List.mem_append.1 hw with hw | hw
      · exact hlast w hw hew hkw
      · obtain rfl := List.mem_singleton.1 hw
        exact hx ⟨hkw, hew⟩

/-- One more item: a new name goes to the end, a known one stays where it is. -/
theorem Indexes.enter {m : OrderedMap α} {xs : List β} (h : Indexes key value? m xs) (x : β) :
    Indexes key value? (enter key value? m x) (xs ++ [x]) := by
  unfold OrderedMap.enter
  split
  · next hx =>
    refine ⟨h.keys_nodup, fun name => ?_, h.keys_order.imp fun hb => hb.concat x, ?_⟩
    · rw [h.mem_keys, entered_concat, hx]
      simp
    · intro name value
      rw [h.get?, lastEntered_concat, hx]
      simp
  · next value hx =>
    refine ⟨(m.insert (key x) value).nodup, fun name => ?_, ?_, fun name value' => ?_⟩
    · rw [keys_insert, entered_concat, hx, ← h.mem_keys]
      split_ifs with hm
      · simp only [Option.isSome_some, and_true]
        exact ⟨.inl, fun hn => hn.elim id fun he => he ▸ hm⟩
      · simp [eq_comm]
    · have hold : m.keys.Pairwise (EnteredBefore key value? (xs ++ [x])) :=
        h.keys_order.imp fun hb => hb.concat x
      rw [keys_insert]
      split_ifs with hm
      · exact hold
      -- Every name that is there already has an entry in front of the first one of the new name.
      · refine List.pairwise_append.2 ⟨hold, List.pairwise_singleton _ _, ?_⟩
        intro a ha b hb
        obtain rfl := List.mem_singleton.1 hb
        exact (enteredBefore_of_not_entered ((h.mem_keys a).1 ha)
          (fun hn => hm ((h.mem_keys _).2 hn))).concat x
    · rw [get?_insert, lastEntered_concat, hx]
      by_cases hn : name = key x
      · simp [hn]
      · simp [hn, Ne.symm hn, h.get?]

theorem indexes_ofItems (key : β → String) (value? : β → Option α) (xs : List β) :
    Indexes key value? (ofItems key value? xs) xs := by
  induction xs using List.reverseRecOn with
  | nil => exact ⟨List.nodup_nil, by simp [ofItems, empty, keys, Entered], .nil,
      by simp [ofItems, empty, OrderedMap.get?, LastEntered]⟩
  | append_singleton xs x ih =>
    rw [ofItems, List.foldl_append]
    exact ih.enter x

theorem ofItems_filter (key : β → String) (value? : β → Option α) (xs : List β) :
    ofItems key value? (xs.filter fun x => (value? x).isSome) = ofItems key value? xs := by
  rw [ofItems, List.foldl_filter, ofItems]
  congr 1
  funext m x
  cases hx : value? x <;> simp [enter, hx]

end Entering
end CSymbols.OrderedMap
