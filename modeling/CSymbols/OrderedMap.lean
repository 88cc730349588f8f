/-! Maps from names that remember in which order the names first came. -/
namespace CSymbols

/-- A map as the list of its entries, each name once, in order of first insertion. -/
structure OrderedMap (α : Type) where
  entries : List (String × α)
  nodup : (entries.map Prod.fst).Nodup

namespace OrderedMap

variable {α : Type}

/-- Replaces the value under a name where it stands, or adds the name at the end. -/
def putEntry (name : String) (value : α) : List (String × α) → List (String × α)
  | [] => [(name, value)]
  | e :: es => if e.1 = name then (name, value) :: es else e :: putEntry name value es

theorem keys_putEntry (name : String) (value : α) (es : List (String × α)) :
    (putEntry name value es).map Prod.fst =
      if name ∈ es.map Prod.fst then es.map Prod.fst else es.map Prod.fst ++ [name] := by
  induction es with
  | nil => simp [putEntry]
  | cons e es ih =>
    unfold putEntry
    by_cases h : e.1 = name
    · simp [h]
    · simp only [h, if_false, List.map_cons, ih, List.mem_cons, Ne.symm h, false_or]
      split <;> simp

def empty : OrderedMap α := ⟨[], List.nodup_nil⟩

def keys (m : OrderedMap α) : List String := m.entries.map Prod.fst

def insert (m : OrderedMap α) (name : String) (value : α) : OrderedMap α where
  entries := putEntry name value m.entries
  nodup := by
    rw [keys_putEntry]
    split
    · exact m.nodup
    · rename_i h
      refine List.nodup_append.2 ⟨m.nodup, by simp, ?_⟩
      intro a ha b hb
      obtain rfl := List.mem_singleton.1 hb
      exact fun he => h (he ▸ ha)

def get? (m : OrderedMap α) (name : String) : Option α := m.entries.lookup name

def isEmpty (m : OrderedMap α) : Bool := m.entries.isEmpty

/-- A name keeps its place when it is inserted again. -/
theorem keys_insert (m : OrderedMap α) (name : String) (value : α) :
    (m.insert name value).keys = if name ∈ m.keys then m.keys else m.keys ++ [name] :=
  keys_putEntry name value m.entries

end OrderedMap
end CSymbols
