import CSymbols.Gateway.Params
import Mathlib.Data.List.Basic
import Mathlib.Data.List.Induction
import Mathlib.Data.String.Basic

/-! The parameters of a parse: the values that they are read from, and that every other one is
refused as malformed. -/
namespace CSymbols

namespace Json

variable {members : List (Option String × Json)} {key s : String}

/-- The last member with a key holds a text. -/
def Gives (members : List (Option String × Json)) (key s : String) : Prop :=
  ∃ before after, members = before ++ (some key, .text s) :: after ∧ ∀ m ∈ after, m.1 ≠ some key

theorem member?_concat (m : Option String × Json) :
    (object (members ++ [m])).member? key =
      if m.1 = some key then some m.2 else (object members).member? key := by
  by_cases h : m.1 = some key <;> simp [member?, h]

theorem gives_concat (m : Option String × Json) :
    Gives (members ++ [m]) key s ↔
      (m.1 = some key ∧ m.2 = .text s) ∨ (m.1 ≠ some key ∧ Gives members key s) := by
  constructor
  · rintro ⟨before, after, hsplit, hafter⟩
    rcases List.eq_nil_or_concat' after with rfl | ⟨after, n, rfl⟩
    · obtain ⟨-, rfl⟩ := List.append_singleton_inj.1 hsplit
      exact .inl ⟨rfl, rfl⟩
    · rw [← List.cons_append, ← List.append_assoc] at hsplit
      obtain ⟨hmembers, rfl⟩ := List.append_singleton_inj.1 hsplit
      exact .inr ⟨hafter m (by simp), before, after, hmembers, fun n hn => hafter n (by simp [hn])⟩
  · rintro (⟨hkey, hvalue⟩ | ⟨hne, before, after, rfl, hafter⟩)
    · refine ⟨members, [], ?_, by simp⟩
      rw [← hkey, ← hvalue]
    · refine ⟨before, after ++ [m], by simp, ?_⟩
      intro n hn
      rcases List.mem_append.1 hn with hn | hn
      · exact hafter n hn
      · rwa [List.mem_singleton.1 hn]

theorem text?_eq_some_iff {v : Json} : v.text? = some s ↔ v = .text s := by
  cases v <;> simp [text?, text]

theorem gives_iff :
    Gives members key s ↔ ((object members).member? key).bind text? = some s := by
  induction members using List.reverseRecOn with
  | nil => simp [Gives, member?]
  | append_singleton members m ih =>
    rw [gives_concat, member?_concat, ih]
    by_cases hkey : m.1 = some key <;> simp [hkey, text?_eq_some_iff]

/-- Members in the order of their keys, none of which comes twice. -/
def Ordered (members : List (Option String × Json)) : Prop :=
  members.Pairwise fun m n => m.1.getD "" ≤ n.1.getD "" ∧ m.1 ≠ n.1

theorem mem_insertSorted {k : Option String} {v : Json} {m : Option String × Json}
    (ho : Ordered members) (h : m ∈ insertSorted k v members) :
    m = (k, v) ∨ (m ∈ members ∧ m.1 ≠ k) := by
  induction members with
  | nil => exact .inl (List.mem_singleton.1 h)
  | cons n ns ih =>
    obtain ⟨hn, hns⟩ := List.pairwise_cons.1 ho
    unfold insertSorted at h
    split_ifs at h with hlt heq
    · rcases List.mem_cons.1 h with rfl | hm
      · exact .inl rfl
      · refine .inr ⟨hm, ?_⟩
        rintro rfl
        rcases List.mem_cons.1 hm with rfl | hm
        · exact lt_irrefl _ hlt
        · exact absurd hlt (not_lt_of_ge (hn m hm).1)
    · rcases List.mem_cons.1 h with rfl | hm
      · exact .inl rfl
      · refine .inr ⟨List.mem_cons_of_mem n hm, ?_⟩
        rw [beq_iff_eq] at heq
        exact heq ▸ (hn m hm).2.symm
    · rcases List.mem_cons.1 h with rfl | hm
      · exact .inr ⟨List.mem_cons_self, fun hk => heq (by simp [hk])⟩
      · exact (ih hns hm).imp_right fun h => ⟨List.mem_cons_of_mem n h.1, h.2⟩

theorem ordered_insertSorted (k : Option String) (v : Json) (ho : Ordered members) :
    Ordered (insertSorted k v members) := by
  induction members with
  | nil => exact List.pairwise_singleton _ _
  | cons n ns ih =>
    obtain ⟨hn, hns⟩ := List.pairwise_cons.1 ho
    unfold insertSorted
    split_ifs with hlt heq
    · refine List.pairwise_cons.2 ⟨?_, ho⟩
      intro m hm
      have hle : n.1.getD "" ≤ m.1.getD "" := by
        rcases List.mem_cons.1 hm with rfl | hm
        · exact le_rfl
        · exact (hn m hm).1
      have hkey : k.getD "" < m.1.getD "" := lt_of_lt_of_le hlt hle
      refine ⟨hkey.le, ?_⟩
      rintro rfl
      exact lt_irrefl _ hkey
    · rw [beq_iff_eq] at heq
      subst heq
      exact List.pairwise_cons.2 ⟨hn, hns⟩
    · refine List.pairwise_cons.2 ⟨?_, ih hns⟩
      intro m hm
      rcases mem_insertSorted hns hm with rfl | ⟨hm, -⟩
      · exact ⟨le_of_not_gt hlt, fun hk => heq (by simp [hk])⟩
      · exact hn m hm

theorem sorted_concat (m : Option String × Json) :
    sorted (members ++ [m]) = insertSorted m.1 m.2 (sorted members) := by
  simp [sorted]

theorem ordered_sorted (members : List (Option String × Json)) : Ordered (sorted members) := by
  induction members using List.reverseRecOn with
  | nil => exact .nil
  | append_singleton members m ih =>
    rw [sorted_concat]
    exact ordered_insertSorted m.1 m.2 ih

/-- Of members with one key, the last one is left. -/
theorem member?_of_mem_sorted {m : Option String × Json} (h : m ∈ sorted members)
    (hk : m.1 = some key) : (object members).member? key = some m.2 := by
  induction members using List.reverseRecOn with
  | nil => simp [sorted] at h
  | append_singleton members n ih =>
    rw [sorted_concat] at h
    rw [member?_concat]
    rcases mem_insertSorted (ordered_sorted members) h with rfl | ⟨hm, hne⟩
    · rw [if_pos hk]
    · rw [if_neg (fun hn => hne (hk.trans hn.symm)), ih hm]

end Json

namespace Gateway

/-- A value is read as the parameters of a parse: an object that gives both texts, whatever else is
in it, or an array of the two. -/
def ParseParams.ReadFrom (p : ParseParams) (v : Json) : Prop :=
  v = .array [.text p.filePath, .text p.sourceText] ∨
    ∃ members, v = .object members ∧ Json.Gives members "filePath" p.filePath ∧
      Json.Gives members "sourceText" p.sourceText

theorem bind_eq_ok {α β : Type} {x : Except Error α} {f : α → Except Error β} {b : β}
    (h : x >>= f = .ok b) : ∃ a, x = .ok a ∧ f a = .ok b := by
  cases x with
  | error e => cases h
  | ok a => exact ⟨a, rfl, h⟩

theorem bind_eq_error {α β : Type} {x : Except Error α} {f : α → Except Error β} {e : Error}
    (h : x >>= f = .error e) : x = .error e ∨ ∃ a, x = .ok a ∧ f a = .error e := by
  cases x with
  | error e' =>
    cases h
    exact .inl rfl
  | ok a => exact .inr ⟨a, rfl, h⟩

theorem forM_ok {α : Type} {f : α → Except Error Unit} {xs : List α} (h : ∀ x ∈ xs, f x = .ok ()) :
    xs.forM f = .ok () := by
  induction xs with
  | nil => rfl
  | cons x xs ih =>
    obtain ⟨hx, hxs⟩ := List.forall_mem_cons.1 h
    rw [List.forM, hx]
    exact ih hxs

theorem forM_error {α : Type} {f : α → Except Error Unit} {xs : List α} {e : Error}
    (h : xs.forM f = .error e) : ∃ x ∈ xs, f x = .error e := by
  induction xs with
  | nil => cases h
  | cons x xs ih =>
    rw [List.forM] at h
    rcases bind_eq_error h with hx | ⟨-, -, hxs⟩
    · exact ⟨x, List.mem_cons_self, hx⟩
    · obtain ⟨y, hy, he⟩ := ih hxs
      exact ⟨y, List.mem_cons_of_mem _ hy, he⟩

theorem textParam_eq_ok_iff {v : Json} {s : String} : textParam v = .ok s ↔ v = .text s := by
  unfold textParam
  split
  · simp [Json.text, eq_comm]
  · next h =>
    refine iff_of_false (by simp) ?_
    rintro rfl
    exact h s rfl

/-- Both members are looked at before one of them is missed. -/
theorem checkFields_parse {members : List (Option String × Json)} {filePath sourceText : String}
    (hfile : (Json.object members).member? "filePath" = some (.text filePath))
    (hsource : (Json.object members).member? "sourceText" = some (.text sourceText)) :
    checkFields (fun key v => if key == "filePath" || key == "sourceText"
      then (textParam v).map fun _ => () else .ok ()) (.object members) = .ok () := by
  apply forM_ok
  rintro ⟨_ | key, v⟩ hm
  · rfl
  · have hlast := Json.member?_of_mem_sorted hm rfl
    by_cases hf : key = "filePath"
    · rw [hf, hfile] at hlast
      rw [← Option.some.inj hlast, hf]
      rfl
    · by_cases hs : key = "sourceText"
      · rw [hs, hsource] at hlast
        rw [← Option.some.inj hlast, hs]
        rfl
      · simp [hf, hs]

theorem ParseParams.ofJson_eq_ok_iff {v : Json} {p : ParseParams} :
    ofJson v = .ok p ↔ p.ReadFrom v := by
  constructor
  · intro h
    unfold ofJson at h
    split at h
    · next members =>
      obtain ⟨-, -, h⟩ := bind_eq_ok h
      split at h <;> cases h
      next filePath sourceText hfile hsource =>
      exact .inr ⟨members, rfl, Json.gives_iff.2 hfile, Json.gives_iff.2 hsource⟩
    · next file source rest =>
      obtain ⟨filePath, hfile, h⟩ := bind_eq_ok h
      obtain ⟨sourceText, hsource, h⟩ := bind_eq_ok h
      split_ifs at h with hrest
      cases h
      rw [textParam_eq_ok_iff.1 hfile, textParam_eq_ok_iff.1 hsource, List.isEmpty_iff.1 hrest]
      exact .inl rfl
    · obtain ⟨-, -, h⟩ := bind_eq_ok h
      cases h
    · cases h
  · rintro (rfl | ⟨members, rfl, hfile, hsource⟩)
    · rfl
    · obtain ⟨file, hmember, hfile⟩ := Option.bind_eq_some_iff.1 (Json.gives_iff.1 hfile)
      obtain ⟨source, hmember', hsource⟩ := Option.bind_eq_some_iff.1 (Json.gives_iff.1 hsource)
      rw [Json.text?_eq_some_iff.1 hfile] at hmember
      rw [Json.text?_eq_some_iff.1 hsource] at hmember'
      unfold ofJson
      simp only [checkFields_parse hmember hmember', hmember, hmember']
      rfl

/-- The error of a request whose parameters do not fit. -/
def IsMalformed (e : Error) : Prop := ∃ message, e = ⟨-32602, message, none⟩

theorem isMalformed_of_textParam {v : Json} {e : Error} (h : textParam v = .error e) :
    IsMalformed e := by
  unfold textParam at h
  split at h
  · cases h
  · cases h
    exact ⟨_, rfl⟩

theorem isMalformed_of_checkFields {check : String → Json → Except Error Unit} {v : Json}
    {e : Error} (hc : ∀ key v e, check key v = .error e → IsMalformed e)
    (h : checkFields check v = .error e) : IsMalformed e := by
  unfold checkFields at h
  split at h
  · obtain ⟨m, -, hm⟩ := forM_error h
    exact hc _ _ _ hm
  · cases h

theorem isMalformed_of_map_textParam {v : Json} {e : Error}
    (h : ((textParam v).map fun _ => ()) = .error e) : IsMalformed e := by
  cases ht : textParam v with
  | ok _ =>
    rw [ht] at h
    cases h
  | error e' =>
    rw [ht] at h
    cases h
    exact isMalformed_of_textParam ht

theorem isMalformed_of_ofJson {v : Json} {e : Error} (h : ParseParams.ofJson v = .error e) :
    IsMalformed e := by
  unfold ParseParams.ofJson at h
  split at h
  · -- An object: its members are looked at first, and then those that are missing.
    rcases bind_eq_error h with hf | ⟨-, -, hmissing⟩
    · refine isMalformed_of_checkFields ?_ hf
      intro key v e he
      split at he
      · exact isMalformed_of_map_textParam he
      · cases he
    · split at hmissing <;> cases hmissing <;> exact ⟨_, rfl⟩
  · rcases bind_eq_error h with hfile | ⟨filePath, -, h⟩
    · exact isMalformed_of_textParam hfile
    · rcases bind_eq_error h with hsource | ⟨sourceText, -, hrest⟩
      · exact isMalformed_of_textParam hsource
      · split at hrest <;> cases hrest
        exact ⟨_, rfl⟩
  · rcases bind_eq_error h with hitems | ⟨-, -, hlength⟩
    · obtain ⟨v, -, hv⟩ := forM_error hitems
      exact isMalformed_of_map_textParam hv
    · cases hlength
      exact ⟨_, rfl⟩
  · cases h
    exact ⟨_, rfl⟩

end Gateway
end CSymbols
