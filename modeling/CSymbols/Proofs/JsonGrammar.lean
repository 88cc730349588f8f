import CSymbols.Json.Reader
import Mathlib.Data.List.Basic

/-! The grammar of JSON over tokens, and that the reader accepts just what it derives. -/
namespace CSymbols.Json

mutual

/-- The tokens that spell a value. -/
def spelling : Json → List Token
  | .null => [.null]
  | .bool b => [.bool b]
  | .number literal => [.number literal]
  | .string text => [.string text]
  | .array [] => [.leftBracket, .rightBracket]
  | .array (v :: vs) => .leftBracket :: (spelling v ++ (moreItems vs ++ [.rightBracket]))
  | .object [] => [.leftBrace, .rightBrace]
  | .object ((key, v) :: ms) =>
    .leftBrace :: .string key :: .colon :: (spelling v ++ (moreMembers ms ++ [.rightBrace]))

/-- The items of an array behind its first one. -/
def moreItems : List Json → List Token
  | [] => []
  | v :: vs => .comma :: (spelling v ++ moreItems vs)

/-- The members of an object behind its first one. -/
def moreMembers : List (Option String × Json) → List Token
  | [] => []
  | (key, v) :: ms => .comma :: .string key :: .colon :: (spelling v ++ moreMembers ms)

end

namespace State

/-- The state behind a sequence of tokens. -/
def run (s : State) (ts : List Token) : Option State := ts.foldlM step s

@[simp] theorem run_nil (s : State) : s.run [] = some s := rfl

theorem run_cons (s : State) (t : Token) (ts : List Token) :
    s.run (t :: ts) = (s.step t).bind fun s' => s'.run ts := rfl

theorem run_cons_of_step {s s' : State} {t : Token} (h : s.step t = some s') (ts : List Token) :
    s.run (t :: ts) = s'.run ts := by
  rw [run_cons, h]
  rfl

theorem run_append (s : State) (ts us : List Token) :
    s.run (ts ++ us) = (s.run ts).bind fun s' => s'.run us := List.foldlM_append

/-- An array begins like a value in it unless it ends at once. -/
theorem run_firstItem {t : Token} (ht : t ≠ .rightBracket) (frames : List Frame)
    (ts : List Token) :
    (⟨.firstItem, frames⟩ : State).run (t :: ts) =
      (⟨.value, .array [] :: frames⟩ : State).run (t :: ts) := by
  rw [run_cons, run_cons]
  simp [step, ht]

end State

theorem spelling_ne_rightBracket (v : Json) :
    ∃ t ts, spelling v = t :: ts ∧ t ≠ .rightBracket := by
  unfold spelling
  split <;> exact ⟨_, _, rfl, by simp⟩

open State

mutual

/-- The reader takes in the spelling of a value whatever stands around it. -/
theorem run_spelling (v : Json) (frames : List Frame) (ts : List Token) :
    (⟨.value, frames⟩ : State).run (spelling v ++ ts) =
      (⟨.next v, frames⟩ : State).run ts := by
  match v with
  | .null | .bool _ | .number _ | .string _ => rw [spelling]; rfl
  | .array [] => rw [spelling]; rfl
  | .object [] => rw [spelling]; rfl
  | .array (v :: vs) =>
    have hitems := run_moreItems v vs [] frames ts
    obtain ⟨t, us, ht, hne⟩ := spelling_ne_rightBracket v
    calc (⟨.value, frames⟩ : State).run (spelling (.array (v :: vs)) ++ ts)
        = (⟨.firstItem, frames⟩ : State).run
            (spelling v ++ (moreItems vs ++ .rightBracket :: ts)) := by
          rw [spelling, List.cons_append, run_cons_of_step rfl]
          simp
      _ = (⟨.value, .array [] :: frames⟩ : State).run
            (spelling v ++ (moreItems vs ++ .rightBracket :: ts)) := by
          rw [ht, List.cons_append, run_firstItem hne]
      _ = (⟨.next v, .array [] :: frames⟩ : State).run (moreItems vs ++ .rightBracket :: ts) :=
          run_spelling v _ _
      _ = _ := hitems
  | .object ((key, v) :: ms) =>
    have hmembers := run_moreMembers key v ms [] frames ts
    calc (⟨.value, frames⟩ : State).run (spelling (.object ((key, v) :: ms)) ++ ts)
        = (⟨.value, .object [] key :: frames⟩ : State).run
            (spelling v ++ (moreMembers ms ++ .rightBrace :: ts)) := by
          rw [spelling]
          simp only [List.cons_append, List.append_assoc]
          rw [run_cons_of_step rfl, run_cons_of_step rfl, run_cons_of_step rfl]
          rfl
      _ = (⟨.next v, .object [] key :: frames⟩ : State).run
            (moreMembers ms ++ .rightBrace :: ts) := run_spelling v _ _
      _ = _ := hmembers

theorem run_moreItems (v : Json) (vs items : List Json) (frames : List Frame) (ts : List Token) :
    (⟨.next v, .array items :: frames⟩ : State).run (moreItems vs ++ .rightBracket :: ts) =
      (⟨.next (.array (items.reverse ++ v :: vs)), frames⟩ : State).run ts := by
  match vs with
  | [] =>
    rw [moreItems, List.nil_append, run_cons_of_step rfl]
    simp
  | w :: ws =>
    calc (⟨.next v, .array items :: frames⟩ : State).run
          (moreItems (w :: ws) ++ .rightBracket :: ts)
        = (⟨.value, .array (v :: items) :: frames⟩ : State).run
            (spelling w ++ (moreItems ws ++ .rightBracket :: ts)) := by
          rw [moreItems, List.cons_append, run_cons_of_step rfl, List.append_assoc]
      _ = (⟨.next w, .array (v :: items) :: frames⟩ : State).run
            (moreItems ws ++ .rightBracket :: ts) := run_spelling w _ _
      _ = (⟨.next (.array ((v :: items).reverse ++ w :: ws)), frames⟩ : State).run ts :=
          run_moreItems w ws (v :: items) frames ts
      _ = _ := by simp

theorem run_moreMembers (key : Option String) (v : Json)
    (ms members : List (Option String × Json)) (frames : List Frame) (ts : List Token) :
    (⟨.next v, .object members key :: frames⟩ : State).run (moreMembers ms ++ .rightBrace :: ts) =
      (⟨.next (.object (members.reverse ++ (key, v) :: ms)), frames⟩ : State).run ts := by
  match ms with
  | [] =>
    rw [moreMembers, List.nil_append, run_cons_of_step rfl]
    simp
  | (key', w) :: ms =>
    calc (⟨.next v, .object members key :: frames⟩ : State).run
          (moreMembers ((key', w) :: ms) ++ .rightBrace :: ts)
        = (⟨.value, .object ((key, v) :: members) key' :: frames⟩ : State).run
            (spelling w ++ (moreMembers ms ++ .rightBrace :: ts)) := by
          rw [moreMembers]
          simp only [List.cons_append, List.append_assoc]
          rw [run_cons_of_step rfl, run_cons_of_step rfl, run_cons_of_step rfl]
      _ = (⟨.next w, .object ((key, v) :: members) key' :: frames⟩ : State).run
            (moreMembers ms ++ .rightBrace :: ts) := run_spelling w _ _
      _ = (⟨.next (.object (((key, v) :: members).reverse ++ (key', w) :: ms)), frames⟩ :
            State).run ts := run_moreMembers key' w ms ((key, v) :: members) frames ts
      _ = _ := by simp

end

/-- The whole text has been read, and this is its value. -/
def State.finished (root : Json) : State := ⟨.next root, []⟩

theorem run_cons_eq_some {s final : State} {t : Token} {ts : List Token}
    (h : s.run (t :: ts) = some final) : ∃ s', s.step t = some s' ∧ s'.run ts = some final :=
  Option.bind_eq_some_iff.1 h

theorem key_of_run {root : Json} {members : List (Option String × Json)} {frames : List Frame}
    {ts : List Token} (h : (⟨.key members, frames⟩ : State).run ts = some (.finished root)) :
    ∃ key rest, ts = .string key :: .colon :: rest ∧
      (⟨.value, .object members key :: frames⟩ : State).run rest = some (.finished root) := by
  cases ts with
  | nil => simp [State.finished] at h
  | cons t ts =>
    obtain ⟨s, hs, hr⟩ := run_cons_eq_some h
    cases t with
    | string key =>
      obtain rfl := Option.some.inj hs
      cases ts with
      | nil => simp [State.finished] at hr
      | cons u us =>
        obtain ⟨s, hs, hr⟩ := run_cons_eq_some hr
        by_cases hu : u = .colon
        · subst hu
          obtain rfl := Option.some.inj hs
          exact ⟨key, us, rfl, hr⟩
        · simp [step, hu] at hs
    | _ => cases hs

/-- How a run of so many tokens that comes to its end goes on: where a value is expected, and behind
a value in an array or object. -/
structure Accounted (root : Json) (n : Nat) : Prop where
  value : ∀ {ts frames}, ts.length ≤ n →
    (⟨.value, frames⟩ : State).run ts = some (.finished root) →
    ∃ v rest, ts = spelling v ++ rest ∧
      (⟨.next v, frames⟩ : State).run rest = some (.finished root)
  items : ∀ {ts v items frames}, ts.length ≤ n →
    (⟨.next v, .array items :: frames⟩ : State).run ts = some (.finished root) →
    ∃ vs rest, ts = moreItems vs ++ .rightBracket :: rest ∧
      (⟨.next (.array (items.reverse ++ v :: vs)), frames⟩ : State).run rest =
        some (.finished root)
  members : ∀ {ts v members key frames}, ts.length ≤ n →
    (⟨.next v, .object members key :: frames⟩ : State).run ts = some (.finished root) →
    ∃ ms rest, ts = moreMembers ms ++ .rightBrace :: rest ∧
      (⟨.next (.object (members.reverse ++ (key, v) :: ms)), frames⟩ : State).run rest =
        some (.finished root)

namespace Accounted

variable {root : Json} {n : Nat} (h : Accounted root n) {ts : List Token} {frames : List Frame}
  (hl : ts.length ≤ n)

include h hl

theorem array (hr : (⟨.firstItem, frames⟩ : State).run ts = some (.finished root)) :
    ∃ vs rest, .leftBracket :: ts = spelling (.array vs) ++ rest ∧
      (⟨.next (.array vs), frames⟩ : State).run rest = some (.finished root) := by
  cases ts with
  | nil => simp [State.finished] at hr
  | cons t ts =>
    by_cases ht : t = .rightBracket
    · subst ht
      exact ⟨[], ts, by simp [spelling], hr⟩
    · rw [run_firstItem ht] at hr
      obtain ⟨v, us, he, hv⟩ := h.value hl hr
      have hus : us.length ≤ n := by
        have := congrArg List.length he
        simp only [List.length_append] at this
        omega
      obtain ⟨vs, rest, rfl, hvs⟩ := h.items hus hv
      exact ⟨v :: vs, rest, by simp [spelling, he], hvs⟩

theorem object (hr : (⟨.firstKey, frames⟩ : State).run ts = some (.finished root)) :
    ∃ ms rest, .leftBrace :: ts = spelling (.object ms) ++ rest ∧
      (⟨.next (.object ms), frames⟩ : State).run rest = some (.finished root) := by
  cases ts with
  | nil => simp [State.finished] at hr
  | cons t ts =>
    by_cases ht : t = .rightBrace
    · subst ht
      exact ⟨[], ts, by simp [spelling], hr⟩
    · have hk : (⟨.key [], frames⟩ : State).run (t :: ts) = some (.finished root) := by
        rw [← hr, run_cons, run_cons]
        cases t <;> simp [step] at ht ⊢
      obtain ⟨key, us, he, hu⟩ := key_of_run hk
      rw [he] at hl ⊢
      simp only [List.length_cons] at hl
      obtain ⟨v, ws, rfl, hv⟩ := h.value (by omega) hu
      obtain ⟨ms, rest, rfl, hms⟩ := h.members (by simp at hl; omega) hv
      exact ⟨(key, v) :: ms, rest, by simp [spelling], hms⟩

end Accounted

theorem accounted (root : Json) (n : Nat) : Accounted root n := by
  induction n with
  | zero =>
    refine ⟨?_, ?_, ?_⟩
    all_goals
      intros
      rename_i hl hr
      rw [List.length_eq_zero_iff.1 (Nat.le_zero.1 hl)] at hr
      simp [State.finished] at hr
  | succ n ih =>
    refine ⟨?_, ?_, ?_⟩
    · intro ts frames hl hr
      cases ts with
      | nil => simp [State.finished] at hr
      | cons t ts =>
        obtain ⟨s', hs, hr'⟩ := run_cons_eq_some hr
        have hl' : ts.length ≤ n := Nat.le_of_succ_le_succ hl
        cases t with
        | leftBrace =>
          obtain rfl := Option.some.inj hs
          obtain ⟨ms, rest, he, hms⟩ := ih.object hl' hr'
          exact ⟨_, rest, he, hms⟩
        | leftBracket =>
          obtain rfl := Option.some.inj hs
          obtain ⟨vs, rest, he, hvs⟩ := ih.array hl' hr'
          exact ⟨_, rest, he, hvs⟩
        | null =>
          obtain rfl := Option.some.inj hs
          exact ⟨.null, ts, by simp [spelling], hr'⟩
        | bool b =>
          obtain rfl := Option.some.inj hs
          exact ⟨.bool b, ts, by simp [spelling], hr'⟩
        | number literal =>
          obtain rfl := Option.some.inj hs
          exact ⟨.number literal, ts, by simp [spelling], hr'⟩
        | string text =>
          obtain rfl := Option.some.inj hs
          exact ⟨.string text, ts, by simp [spelling], hr'⟩
        | _ => cases hs
    · intro ts v items frames hl hr
      cases ts with
      | nil => simp [State.finished] at hr
      | cons t ts =>
        obtain ⟨s', hs, hr'⟩ := run_cons_eq_some hr
        have hl' : ts.length ≤ n := Nat.le_of_succ_le_succ hl
        cases t with
        | comma =>
          obtain rfl := Option.some.inj hs
          obtain ⟨w, us, rfl, hw⟩ := ih.value hl' hr'
          obtain ⟨ws, rest, rfl, hws⟩ := ih.items (by simp at hl'; omega) hw
          exact ⟨w :: ws, rest, by simp [moreItems], by simpa using hws⟩
        | rightBracket =>
          obtain rfl := Option.some.inj hs
          exact ⟨[], ts, rfl, by simpa using hr'⟩
        | _ => cases hs
    · intro ts v members key frames hl hr
      cases ts with
      | nil => simp [State.finished] at hr
      | cons t ts =>
        obtain ⟨s', hs, hr'⟩ := run_cons_eq_some hr
        have hl' : ts.length ≤ n := Nat.le_of_succ_le_succ hl
        cases t with
        | comma =>
          obtain rfl := Option.some.inj hs
          obtain ⟨key', us, rfl, hu⟩ := key_of_run hr'
          simp only [List.length_cons] at hl'
          obtain ⟨w, ws, rfl, hw⟩ := ih.value (by omega) hu
          obtain ⟨ms, rest, rfl, hms⟩ := ih.members (by simp at hl'; omega) hw
          exact ⟨(key', w) :: ms, rest, by simp [moreMembers], by simpa using hms⟩
        | rightBrace =>
          obtain rfl := Option.some.inj hs
          exact ⟨[], ts, rfl, by simpa using hr'⟩
        | _ => cases hs

/-- Behind the value of a whole text nothing can follow. -/
theorem run_finished {v root : Json} {ts : List Token}
    (h : (⟨.next v, []⟩ : State).run ts = some (.finished root)) : ts = [] ∧ v = root := by
  cases ts with
  | nil => exact ⟨rfl, by simpa [State.finished] using h⟩
  | cons t ts =>
    obtain ⟨s, hs, -⟩ := run_cons_eq_some h
    cases hs

theorem ofTokens?_eq_some_iff_run {ts : List Token} {v : Json} :
    ofTokens? ts = some v ↔ (⟨.value, []⟩ : State).run ts = some (.finished v) := by
  unfold ofTokens? State.run State.finished
  split <;> simp_all

/-- A sequence of tokens is read as a value just if it spells the value. -/
theorem ofTokens?_eq_some_iff {ts : List Token} {v : Json} :
    ofTokens? ts = some v ↔ ts = spelling v := by
  rw [ofTokens?_eq_some_iff_run]
  constructor
  · intro h
    obtain ⟨w, rest, rfl, hw⟩ := (accounted v ts.length).value (Nat.le_refl _) h
    obtain ⟨rfl, rfl⟩ := run_finished hw
    simp
  · rintro rfl
    have h := run_spelling v [] []
    rwa [List.append_nil] at h

theorem parse?_eq_some_iff {s : String} {v : Json} :
    parse? s = some v ↔ tokens s.toList = some (spelling v) := by
  rw [parse?, Option.bind_eq_some_iff]
  simp only [ofTokens?_eq_some_iff, exists_eq_right]

end CSymbols.Json
