import CSymbols.Proofs.Trimming
import CSymbols.Settings.Patch
import Mathlib.Data.List.Induction

/-! Settings that come from configuration texts, one after the other. For each key the last text
that gives it decides, and whatever the texts are, the settings are in normal form. -/
namespace CSymbols.Settings

/-! ### Normal forms of values -/

/-- A text without its blank margins. -/
def TrimsTo (given value : String) : Prop :=
  ∃ front back, Text.Blank front ∧ Text.Blank back ∧
    given.toList = front ++ value.toList ++ back ∧ Text.Bare value.toList

/-- The normal form of a text that stands for a default if it is blank. -/
def NormalText (default given value : String) : Prop :=
  (Text.Blank given.toList ∧ value = default) ∨ (value ≠ "" ∧ TrimsTo given value)

/-- The same, with the ASCII letters of a text that is not blank in lower case. -/
def NormalLowered (default given value : String) : Prop :=
  (Text.Blank given.toList ∧ value = default) ∨
    ∃ t, t ≠ "" ∧ TrimsTo given t ∧ value.toList = t.toList.map Char.toLower

/-- The normal form of a text that is left out if it is blank. -/
def NormalOption (given : String) (value : Option String) : Prop :=
  (Text.Blank given.toList ∧ value = none) ∨ ∃ t, value = some t ∧ t ≠ "" ∧ TrimsTo given t

/-- The normal form of a list of texts, from which the blank ones are dropped. -/
inductive NormalList : List String → List String → Prop
  | nil : NormalList [] []
  | drop {g : String} {given value : List String} (hg : Text.Blank g.toList)
      (h : NormalList given value) : NormalList (g :: given) value
  | keep {g t : String} {given value : List String} (ht : t ≠ "") (hg : TrimsTo g t)
      (h : NormalList given value) : NormalList (g :: given) (t :: value)

theorem trimmed_eq_iff {s t : String} : Text.trimmed s = t ↔ TrimsTo s t := by
  unfold TrimsTo Text.trimmed
  rw [← Text.trim_eq_iff]
  constructor
  · intro h
    rw [← h, String.toList_ofList]
  · intro h
    rw [h, String.ofList_toList]

theorem blank_of_trimmed {s : String} (h : Text.trimmed s = "") : Text.Blank s.toList := by
  obtain ⟨front, back, hfront, hback, hs, -⟩ := trimmed_eq_iff.1 h
  intro c hc
  rw [hs] at hc
  rcases List.mem_append.1 hc with hc | hc
  · exact hfront c (by simpa using hc)
  · exact hback c hc

theorem orDefault_of_empty {default s : String} (h : Text.trimmed s = "") :
    orDefault default s = default := by
  simp [orDefault, h]

theorem orDefault_of_ne {default s : String} (h : Text.trimmed s ≠ "") :
    orDefault default s = Text.trimmed s := by
  simp [orDefault, h]

theorem normalText_orDefault (default s : String) :
    NormalText default s (orDefault default s) := by
  by_cases h : Text.trimmed s = ""
  · left
    exact ⟨blank_of_trimmed h, orDefault_of_empty h⟩
  · right
    rw [orDefault_of_ne h]
    exact ⟨h, trimmed_eq_iff.1 rfl⟩

theorem normalOption_filter (s : String) :
    NormalOption s ((some (Text.trimmed s)).filter (· != "")) := by
  by_cases h : Text.trimmed s = ""
  · left
    exact ⟨blank_of_trimmed h, by simp [h]⟩
  · right
    exact ⟨_, by simp [h], h, trimmed_eq_iff.1 rfl⟩

theorem normalList_nonBlank (texts : List String) : NormalList texts (nonBlank texts) := by
  induction texts with
  | nil => exact .nil
  | cons s texts ih =>
    unfold nonBlank at ih ⊢
    by_cases h : Text.trimmed s = ""
    · rw [List.map_cons, List.filter_cons_of_neg (by simp [h])]
      exact .drop (blank_of_trimmed h) ih
    · rw [List.map_cons, List.filter_cons_of_pos (by simpa using h)]
      exact .keep h (trimmed_eq_iff.1 rfl) ih

theorem toNat_toLower (c : Char) :
    c.toLower.toNat = if 65 ≤ c.toNat ∧ c.toNat ≤ 90 then c.toNat + 32 else c.toNat := by
  unfold Char.toLower
  split
  · rename_i h
    have hlow : 65 ≤ c.toNat := h.1
    have hhigh : c.toNat ≤ 90 := h.2
    have hsum : (c.val + ('a'.val - 'A'.val)).toNat = (c.toNat + 32) % 2 ^ 32 :=
      UInt32.toNat_add _ _
    rw [if_pos ⟨hlow, hhigh⟩]
    show (c.val + ('a'.val - 'A'.val)).toNat = c.toNat + 32
    omega
  · rename_i h
    exact (if_neg h).symm

theorem not_blank_of_letter {n : Nat} (hlow : 65 ≤ n) (hhigh : n ≤ 122) :
    Text.inRanges Text.blankRanges n = false := by
  simp only [Text.inRanges, Text.blankRanges, List.any_cons, List.any_nil, Bool.or_false,
    Bool.or_eq_false_iff, Bool.and_eq_false_iff, decide_eq_false_iff_not]
  omega

theorem isBlank_toLower (c : Char) : Text.isBlank c.toLower = Text.isBlank c := by
  unfold Text.isBlank
  rw [toNat_toLower]
  split
  · rename_i h
    have hlower := not_blank_of_letter (n := c.toNat + 32) (by omega) (by omega)
    have hupper := not_blank_of_letter (n := c.toNat) (by omega) (by omega)
    rw [hlower, hupper]
  · rfl

theorem isUpper_iff {c : Char} : c.isUpper = true ↔ 65 ≤ c.toNat ∧ c.toNat ≤ 90 := by
  show decide (c.val ≥ 'A'.val ∧ c.val ≤ 'Z'.val) = true ↔ _
  rw [decide_eq_true_iff]
  exact Iff.rfl

theorem isUpper_toLower (c : Char) : c.toLower.isUpper = false := by
  apply Bool.eq_false_iff.2
  intro h
  have hrange := isUpper_iff.1 h
  rw [toNat_toLower] at hrange
  split at hrange <;> omega

theorem toLower_of_not_isUpper {c : Char} (h : c.isUpper = false) : c.toLower = c := by
  have hrange : ¬(65 ≤ c.toNat ∧ c.toNat ≤ 90) := fun hc => by simp [isUpper_iff.2 hc] at h
  apply Char.toNat_inj.1
  rw [toNat_toLower, if_neg hrange]

theorem trimmed_lowered (s : String) : Text.trimmed (lowered s) = lowered (Text.trimmed s) := by
  have hblank : Text.isBlank ∘ Char.toLower = Text.isBlank := funext isBlank_toLower
  unfold Text.trimmed lowered Text.trim Text.trimEnd Text.trimStart
  rw [String.toList_ofList, String.toList_ofList, List.dropWhile_map, hblank, ← List.map_reverse,
    List.dropWhile_map, hblank, ← List.map_reverse]

theorem normalLowered_orDefault (default s : String) :
    NormalLowered default s (orDefault default (lowered s)) := by
  have hempty : Text.trimmed (lowered s) = "" ↔ Text.trimmed s = "" := by
    rw [trimmed_lowered, lowered, String.ofList_eq_empty_iff, List.map_eq_nil_iff,
      String.toList_eq_nil_iff]
  by_cases h : Text.trimmed s = ""
  · left
    exact ⟨blank_of_trimmed h, orDefault_of_empty (hempty.2 h)⟩
  · right
    refine ⟨_, h, trimmed_eq_iff.1 rfl, ?_⟩
    rw [orDefault_of_ne (mt hempty.1 h), trimmed_lowered]
    exact String.toList_ofList

/-! ### Settings in normal form -/

/-- Something is left of the text without its blank margins, and it has none. -/
structure Kept (t : String) : Prop where
  ne_empty : t ≠ ""
  bare : Text.Bare t.toList

/-- All texts among the settings are without blank margins, and none is blank. -/
structure IsNormal (s : Settings) : Prop where
  command : Kept s.compiler.command
  language : Kept s.compiler.language
  language_lower : ∀ c ∈ s.compiler.language.toList, c.isUpper = false
  standard : ∀ t ∈ s.compiler.standard, Kept t
  includePaths : ∀ t ∈ s.compiler.includePaths, Kept t
  extraFlags : ∀ t ∈ s.compiler.extraFlags, Kept t
  host : Kept s.server.host

theorem kept_trimmed {s : String} (h : Text.trimmed s ≠ "") : Kept (Text.trimmed s) := by
  obtain ⟨-, -, -, -, -, hbare⟩ := trimmed_eq_iff.1 (rfl : Text.trimmed s = Text.trimmed s)
  exact ⟨h, hbare⟩

theorem Kept.trimmed {t : String} (h : Kept t) : Text.trimmed t = t := by
  unfold Text.trimmed
  rw [h.bare.trim, String.ofList_toList]

theorem Kept.orDefault {t : String} (h : Kept t) (default : String) :
    CSymbols.orDefault default t = t := by
  rw [orDefault_of_ne (by rw [h.trimmed]; exact h.ne_empty), h.trimmed]

theorem kept_orDefault {default : String} (hd : Kept default) (s : String) :
    Kept (orDefault default s) := by
  by_cases h : Text.trimmed s = ""
  · rw [orDefault_of_empty h]
    exact hd
  · rw [orDefault_of_ne h]
    exact kept_trimmed h

theorem kept_of_mem_nonBlank {texts : List String} {t : String} (h : t ∈ nonBlank texts) :
    Kept t := by
  obtain ⟨hmem, hne⟩ := List.mem_filter.1 h
  obtain ⟨s, -, rfl⟩ := List.mem_map.1 hmem
  exact kept_trimmed (by simpa using hne)

theorem nonBlank_of_kept {texts : List String} (h : ∀ t ∈ texts, Kept t) :
    nonBlank texts = texts := by
  have hmap : texts.map Text.trimmed = texts :=
    (List.map_congr_left fun t ht => (h t ht).trimmed).trans (List.map_id' texts)
  unfold nonBlank
  rw [hmap]
  exact List.filter_eq_self.2 fun t ht => by simpa using (h t ht).ne_empty

theorem lowered_of_lower {t : String} (h : ∀ c ∈ t.toList, c.isUpper = false) : lowered t = t := by
  have hmap : t.toList.map Char.toLower = t.toList :=
    (List.map_congr_left fun c hc => toLower_of_not_isUpper (h c hc)).trans (List.map_id' _)
  unfold lowered
  rw [hmap, String.ofList_toList]

theorem lower_orDefault_lowered {default : String}
    (hd : ∀ c ∈ default.toList, c.isUpper = false) (s : String) :
    ∀ c ∈ (orDefault default (lowered s)).toList, c.isUpper = false := by
  by_cases h : Text.trimmed (lowered s) = ""
  · rw [orDefault_of_empty h]
    exact hd
  · rw [orDefault_of_ne h, trimmed_lowered, lowered, String.toList_ofList]
    intro c hc
    obtain ⟨c', -, rfl⟩ := List.mem_map.1 hc
    exact isUpper_toLower c'

theorem isNormal_default : IsNormal {} where
  command := ⟨by decide, by decide, by decide⟩
  language := ⟨by decide, by decide, by decide⟩
  language_lower := by decide
  standard := by simp
  includePaths := by simp
  extraFlags := by simp
  host := ⟨by decide, by decide, by decide⟩

-- The fields are laid open by rewriting. To compare them by unfolding would run the characters of
-- the defaults through the tables.
theorem isNormal_normal (s : Settings) : s.normal.IsNormal where
  command := by
    simp only [Settings.normal, CompilerSettings.normal]
    exact kept_orDefault isNormal_default.command s.compiler.command
  language := by
    simp only [Settings.normal, CompilerSettings.normal]
    exact kept_orDefault isNormal_default.language (lowered s.compiler.language)
  language_lower := by
    simp only [Settings.normal, CompilerSettings.normal]
    exact lower_orDefault_lowered isNormal_default.language_lower s.compiler.language
  standard := by
    intro t ht
    obtain ⟨hmem, hne⟩ := Option.mem_filter_iff.1 ht
    obtain ⟨g, -, rfl⟩ := Option.map_eq_some_iff.1 hmem
    exact kept_trimmed (by simpa using hne)
  includePaths := fun _ => kept_of_mem_nonBlank
  extraFlags := fun _ => kept_of_mem_nonBlank
  host := by
    simp only [Settings.normal, ServerSettings.normal]
    exact kept_orDefault isNormal_default.host s.server.host

/-! ### Keys -/

/-- A key of a configuration: the table and the name that it stands under, and how its value is
read. -/
structure Key (α : Type) where
  table : String
  name : String
  read : Toml.Item → Option α

/-- The text is a configuration, and this value stands in it under the key. -/
def Key.Gives {α : Type} (k : Key α) (text : String) (a : α) : Prop :=
  (Patch.parse? text).isSome ∧ ∃ root item entries v, Toml.parse? text = some root ∧
    root.lookup k.table = some item ∧ Patch.section? item = some entries ∧
      entries.lookup k.name = some v ∧ k.read v = some a

/-- A value is the normal form of what the last text with the key gives, or the default if no text
has it. -/
def Key.Follows {α β : Type} (k : Key α) (Normal : α → β → Prop) (default : β)
    (texts : List String) (value : β) : Prop :=
  ((∀ text ∈ texts, ∀ a, ¬k.Gives text a) ∧ value = default) ∨
    ∃ before text after a, texts = before ++ text :: after ∧ k.Gives text a ∧
      (∀ later ∈ after, ∀ b, ¬k.Gives later b) ∧ Normal a value

/-- A further text without the key makes no difference. -/
theorem Key.Follows.concat {α β : Type} {k : Key α} {Normal : α → β → Prop} {default value : β}
    {texts : List String} (h : k.Follows Normal default texts value) {text : String}
    (hnot : ∀ a, ¬k.Gives text a) : k.Follows Normal default (texts ++ [text]) value := by
  have hlast : ∀ t ∈ [text], ∀ a, ¬k.Gives t a := by simpa using hnot
  rcases h with ⟨hnone, hvalue⟩ | ⟨before, given, after, a, htexts, hgives, hafter, hvalue⟩
  · left
    exact ⟨List.forall_mem_append.2 ⟨hnone, hlast⟩, hvalue⟩
  · right
    have hlater := List.forall_mem_append.2 ⟨hafter, hlast⟩
    exact ⟨before, given, after ++ [text], a, by simp [htexts], hgives, hlater, hvalue⟩

/-- The settings once a text has been merged; one that is no configuration changes nothing. -/
def merged (s : Settings) (text : String) : Settings := (s.merge text).toOption.getD s

/-- The settings once some texts have been merged one after the other. -/
def mergedAll (s : Settings) (texts : List String) : Settings := texts.foldl merged s

theorem merged_of_none {text : String} (h : Patch.parse? text = none) (s : Settings) :
    s.merged text = s := by
  simp [merged, merge, h, Except.toOption]

theorem merged_of_some {text : String} {p : Patch} (h : Patch.parse? text = some p)
    (s : Settings) : s.merged text = (p.apply s).normal := by
  simp [merged, merge, h, Except.toOption]

theorem mergedAll_concat (s : Settings) (texts : List String) (text : String) :
    mergedAll s (texts ++ [text]) = (mergedAll s texts).merged text := by
  simp [mergedAll]

theorem isNormal_mergedAll (texts : List String) : (mergedAll {} texts).IsNormal := by
  induction texts using List.reverseRecOn with
  | nil => exact isNormal_default
  | append_singleton texts text ih =>
    rw [mergedAll_concat]
    cases h : Patch.parse? text with
    | none =>
      rw [merged_of_none h]
      exact ih
    | some p =>
      rw [merged_of_some h]
      exact isNormal_normal _

/-! ### The nine settings -/

theorem get?_eq_some_iff {α : Type} {read : Toml.Item → Option α} {key : String}
    {es : Toml.Entries} {x : Option α} (h : Patch.get? read key es = some x) (a : α) :
    x = some a ↔ ∃ v, es.lookup key = some v ∧ read v = some a := by
  unfold Patch.get? at h
  cases hv : es.lookup key with
  | none =>
    rw [hv] at h
    obtain rfl : none = x := by simpa using h
    simp
  | some v =>
    rw [hv] at h
    obtain ⟨b, hb, rfl⟩ : ∃ b, read v = some b ∧ some b = x := Option.map_eq_some_iff.1 h
    simp [hb]

/-- A patch has for a key what stands under it in the document. -/
theorem gives_iff {α : Type} {k : Key α} {text : String} {root : Toml.Entries}
    (hparse : (Patch.parse? text).isSome) (hroot : Toml.parse? text = some root)
    {found : Option Toml.Entries} (hsection : Patch.get? Patch.section? k.table root = some found)
    {x : Option α} (hget : Patch.get? k.read k.name (found.getD []) = some x) (a : α) :
    x = some a ↔ k.Gives text a := by
  have hfound := get?_eq_some_iff hsection
  rw [get?_eq_some_iff hget]
  unfold Key.Gives
  constructor
  · rintro ⟨v, hv, ha⟩
    cases found with
    | none => simp at hv
    | some entries =>
      obtain ⟨item, hitem, hentries⟩ := (hfound entries).1 rfl
      exact ⟨hparse, root, item, entries, v, hroot, hitem, hentries, hv, ha⟩
  · rintro ⟨-, root', item, entries, v, hroot', hitem, hentries, hv, ha⟩
    obtain rfl : root = root' := Option.some.inj (hroot.symm.trans hroot')
    obtain rfl : found = some entries := (hfound entries).2 ⟨item, hitem, hentries⟩
    exact ⟨v, hv, ha⟩

namespace Key

def command : Key String := ⟨"compiler", "command", Patch.string?⟩

def language : Key String := ⟨"compiler", "language", Patch.string?⟩

def standard : Key String := ⟨"compiler", "standard", Patch.string?⟩

def includePaths : Key (List String) := ⟨"compiler", "include_paths", Patch.strings?⟩

def extraFlags : Key (List String) := ⟨"compiler", "extra_flags", Patch.strings?⟩

def strict : Key Bool := ⟨"compiler", "strict", Patch.boolean?⟩

def host : Key String := ⟨"server", "host", Patch.string?⟩

def port : Key Nat := ⟨"server", "port", Patch.port?⟩

def logLevel : Key LogLevel := ⟨"logging", "level", Patch.level?⟩

end Key

/-- A patch has for each key just what a text gives. -/
structure Reads (text : String) (p : Patch) : Prop where
  command : ∀ a, p.command = some a ↔ Key.command.Gives text a
  language : ∀ a, p.language = some a ↔ Key.language.Gives text a
  standard : ∀ a, p.standard = some a ↔ Key.standard.Gives text a
  includePaths : ∀ a, p.includePaths = some a ↔ Key.includePaths.Gives text a
  extraFlags : ∀ a, p.extraFlags = some a ↔ Key.extraFlags.Gives text a
  strict : ∀ a, p.strict = some a ↔ Key.strict.Gives text a
  host : ∀ a, p.host = some a ↔ Key.host.Gives text a
  port : ∀ a, p.port = some a ↔ Key.port.Gives text a
  logLevel : ∀ a, p.logLevel = some a ↔ Key.logLevel.Gives text a

theorem reads_of_parse? {text : String} {p : Patch} (h : Patch.parse? text = some p) :
    Reads text p := by
  have hparse : (Patch.parse? text).isSome := by simp [h]
  obtain ⟨root, hroot, hp⟩ := Option.bind_eq_some_iff.1 h
  obtain ⟨compiler, hcompiler, hp⟩ := Option.bind_eq_some_iff.1 hp
  obtain ⟨server, hserver, hp⟩ := Option.bind_eq_some_iff.1 hp
  obtain ⟨logging, hlogging, hp⟩ := Option.bind_eq_some_iff.1 hp
  obtain ⟨-, -, hp⟩ := Option.bind_eq_some_iff.1 hp
  obtain ⟨command, hcommand, hp⟩ := Option.bind_eq_some_iff.1 hp
  obtain ⟨language, hlanguage, hp⟩ := Option.bind_eq_some_iff.1 hp
  obtain ⟨standard, hstandard, hp⟩ := Option.bind_eq_some_iff.1 hp
  obtain ⟨includePaths, hincludePaths, hp⟩ := Option.bind_eq_some_iff.1 hp
  obtain ⟨extraFlags, hextraFlags, hp⟩ := Option.bind_eq_some_iff.1 hp
  obtain ⟨strict, hstrict, hp⟩ := Option.bind_eq_some_iff.1 hp
  obtain ⟨host, hhost, hp⟩ := Option.bind_eq_some_iff.1 hp
  obtain ⟨port, hport, hp⟩ := Option.bind_eq_some_iff.1 hp
  obtain ⟨logLevel, hlogLevel, hp⟩ := Option.bind_eq_some_iff.1 hp
  obtain rfl := Option.some.inj hp
  exact {
    command := gives_iff hparse hroot hcompiler hcommand
    language := gives_iff hparse hroot hcompiler hlanguage
    standard := gives_iff hparse hroot hcompiler hstandard
    includePaths := gives_iff hparse hroot hcompiler hincludePaths
    extraFlags := gives_iff hparse hroot hcompiler hextraFlags
    strict := gives_iff hparse hroot hcompiler hstrict
    host := gives_iff hparse hroot hserver hhost
    port := gives_iff hparse hroot hserver hport
    logLevel := gives_iff hparse hroot hlogging hlogLevel }

/-- A setting with its key: a patch has for it just what its text gives, and to merge the patch puts
the normal form of that in place, or else leaves the value that is there. -/
structure Lawful {α β : Type} (key : Key α) (given : Patch → Option α) (value : Settings → β)
    (normal : α → β) : Prop where
  given_iff : ∀ {text p}, Patch.parse? text = some p → ∀ a, given p = some a ↔ key.Gives text a
  value_merge : ∀ (p : Patch) {s : Settings}, s.IsNormal →
    value (p.apply s).normal = (given p).elim (value s) normal

section Lawful
variable {α β : Type} {key : Key α} {given : Patch → Option α} {value : Settings → β}
  {normal : α → β}

theorem Lawful.follows (h : Lawful key given value normal) (texts : List String) :
    key.Follows (fun a v => normal a = v) (value {}) texts (value (mergedAll {} texts)) := by
  induction texts using List.reverseRecOn with
  | nil => exact .inl ⟨by simp, rfl⟩
  | append_singleton texts text ih =>
    rw [mergedAll_concat]
    cases hp : Patch.parse? text with
    | none =>
      have hnot : ∀ a, ¬key.Gives text a := fun a ha => by simp [Key.Gives, hp] at ha
      rw [merged_of_none hp]
      exact ih.concat hnot
    | some p =>
      rw [merged_of_some hp, h.value_merge p (isNormal_mergedAll texts)]
      cases hg : given p with
      | none =>
        have hnot : ∀ a, ¬key.Gives text a := fun a ha => by
          simp [(h.given_iff hp a).2 ha] at hg
        exact ih.concat hnot
      | some a =>
        right
        exact ⟨texts, text, [], a, rfl, (h.given_iff hp a).1 hg, by simp, rfl⟩

/-- What a patch has put in place, it puts there again. -/
theorem Lawful.value_again (h : Lawful key given value normal) (p : Patch) {s : Settings}
    (hs : s.IsNormal) : value (p.apply (p.apply s).normal).normal = value (p.apply s).normal := by
  rw [h.value_merge p (isNormal_normal _)]
  cases hg : given p with
  | none => rfl
  | some a =>
    rw [h.value_merge p hs, hg]
    rfl

end Lawful

theorem normal_getD {α : Type} {f : α → α} {v : α} (h : f v = v) (x : Option α) :
    f (x.getD v) = x.elim v f := by
  cases x with
  | none => exact h
  | some a => rfl

theorem lawful_command :
    Lawful .command Patch.command (fun s => s.compiler.command) (orDefault "clang") where
  given_iff h := (reads_of_parse? h).command
  value_merge p s hs := by
    simp only [Patch.apply, Settings.normal, CompilerSettings.normal]
    exact normal_getD (hs.command.orDefault "clang") p.command

theorem lawful_language :
    Lawful .language Patch.language (fun s => s.compiler.language)
      (fun a => orDefault "c++" (lowered a)) where
  given_iff h := (reads_of_parse? h).language
  value_merge p s hs := by
    have hkept : orDefault "c++" (lowered s.compiler.language) = s.compiler.language := by
      rw [lowered_of_lower hs.language_lower]
      exact hs.language.orDefault "c++"
    simp only [Patch.apply, Settings.normal, CompilerSettings.normal]
    exact normal_getD (f := fun a => orDefault "c++" (lowered a)) hkept p.language

theorem lawful_standard :
    Lawful .standard Patch.standard (fun s => s.compiler.standard)
      (fun a => (some (Text.trimmed a)).filter (· != "")) where
  given_iff h := (reads_of_parse? h).standard
  value_merge p s hs := by
    simp only [Patch.apply, Settings.normal, CompilerSettings.normal]
    cases p.standard with
    | some a => simp
    | none =>
      have hkept := hs.standard
      cases hc : s.compiler.standard with
      | none => simp
      | some t =>
        have ht : Kept t := hkept t hc
        simp [ht.trimmed, ht.ne_empty]

theorem lawful_includePaths :
    Lawful .includePaths Patch.includePaths (fun s => s.compiler.includePaths) nonBlank where
  given_iff h := (reads_of_parse? h).includePaths
  value_merge p s hs := by
    simp only [Patch.apply, Settings.normal, CompilerSettings.normal]
    exact normal_getD (nonBlank_of_kept hs.includePaths) p.includePaths

theorem lawful_extraFlags :
    Lawful .extraFlags Patch.extraFlags (fun s => s.compiler.extraFlags) nonBlank where
  given_iff h := (reads_of_parse? h).extraFlags
  value_merge p s hs := by
    simp only [Patch.apply, Settings.normal, CompilerSettings.normal]
    exact normal_getD (nonBlank_of_kept hs.extraFlags) p.extraFlags

theorem lawful_strict : Lawful .strict Patch.strict (fun s => s.compiler.strict) id where
  given_iff h := (reads_of_parse? h).strict
  value_merge p s _ := by
    simp only [Patch.apply, Settings.normal, CompilerSettings.normal]
    exact normal_getD (f := id) rfl p.strict

theorem lawful_host :
    Lawful .host Patch.host (fun s => s.server.host) (orDefault "127.0.0.1") where
  given_iff h := (reads_of_parse? h).host
  value_merge p s hs := by
    simp only [Patch.apply, Settings.normal, ServerSettings.normal]
    exact normal_getD (hs.host.orDefault "127.0.0.1") p.host

theorem lawful_port : Lawful .port Patch.port (fun s => s.server.port) id where
  given_iff h := (reads_of_parse? h).port
  value_merge p s _ := by
    simp only [Patch.apply, Settings.normal, ServerSettings.normal]
    exact normal_getD (f := id) rfl p.port

theorem lawful_logLevel : Lawful .logLevel Patch.logLevel (fun s => s.logLevel) id where
  given_iff h := (reads_of_parse? h).logLevel
  value_merge p s _ := by
    simp only [Patch.apply, Settings.normal]
    exact normal_getD (f := id) rfl p.logLevel

/-- Each setting follows its key. -/
structure Settled (texts : List String) (s : Settings) : Prop where
  command : Key.command.Follows (NormalText "clang") "clang" texts s.compiler.command
  language : Key.language.Follows (NormalLowered "c++") "c++" texts s.compiler.language
  standard : Key.standard.Follows NormalOption none texts s.compiler.standard
  includePaths : Key.includePaths.Follows NormalList [] texts s.compiler.includePaths
  extraFlags : Key.extraFlags.Follows NormalList [] texts s.compiler.extraFlags
  strict : Key.strict.Follows Eq false texts s.compiler.strict
  host : Key.host.Follows (NormalText "127.0.0.1") "127.0.0.1" texts s.server.host
  port : Key.port.Follows Eq 25333 texts s.server.port
  logLevel : Key.logLevel.Follows Eq .info texts s.logLevel

theorem Key.Follows.imp {α β : Type} {k : Key α} {f : α → β} {Normal : α → β → Prop}
    {default value : β} {texts : List String} (hf : ∀ a, Normal a (f a))
    (h : k.Follows (fun a value => f a = value) default texts value) :
    k.Follows Normal default texts value := by
  rcases h with hnone | ⟨before, text, after, a, htexts, hgives, hafter, rfl⟩
  · exact .inl hnone
  · exact .inr ⟨before, text, after, a, htexts, hgives, hafter, hf a⟩

theorem settled_mergedAll (texts : List String) : Settled texts (mergedAll {} texts) where
  command := (lawful_command.follows texts).imp (normalText_orDefault "clang")
  language := (lawful_language.follows texts).imp (normalLowered_orDefault "c++")
  standard := (lawful_standard.follows texts).imp normalOption_filter
  includePaths := (lawful_includePaths.follows texts).imp normalList_nonBlank
  extraFlags := (lawful_extraFlags.follows texts).imp normalList_nonBlank
  strict := lawful_strict.follows texts
  host := (lawful_host.follows texts).imp (normalText_orDefault "127.0.0.1")
  port := lawful_port.follows texts
  logLevel := lawful_logLevel.follows texts

/-- Settings with the same values are the same. -/
theorem ext_places {s s' : Settings} (hcommand : s.compiler.command = s'.compiler.command)
    (hlanguage : s.compiler.language = s'.compiler.language)
    (hstandard : s.compiler.standard = s'.compiler.standard)
    (hincludePaths : s.compiler.includePaths = s'.compiler.includePaths)
    (hextraFlags : s.compiler.extraFlags = s'.compiler.extraFlags)
    (hstrict : s.compiler.strict = s'.compiler.strict) (hhost : s.server.host = s'.server.host)
    (hport : s.server.port = s'.server.port) (hlogLevel : s.logLevel = s'.logLevel) : s = s' := by
  obtain ⟨⟨_, _, _, _, _, _⟩, ⟨_, _⟩, _⟩ := s
  obtain ⟨⟨_, _, _, _, _, _⟩, ⟨_, _⟩, _⟩ := s'
  simp_all

theorem merged_merged {s : Settings} (hs : s.IsNormal) (text : String) :
    (s.merged text).merged text = s.merged text := by
  cases h : Patch.parse? text with
  | none => rw [merged_of_none h, merged_of_none h]
  | some p =>
    rw [merged_of_some h, merged_of_some h]
    exact ext_places (lawful_command.value_again p hs)
      (lawful_language.value_again p hs) (lawful_standard.value_again p hs)
      (lawful_includePaths.value_again p hs) (lawful_extraFlags.value_again p hs)
      (lawful_strict.value_again p hs) (lawful_host.value_again p hs)
      (lawful_port.value_again p hs) (lawful_logLevel.value_again p hs)

/-- Whatever texts are merged into the defaults, each setting is the normal form of what the last
text with its key gives, or the default. A text that is no configuration might as well not be there.
The settings are always in normal form, and to merge a text a second time changes nothing. -/
theorem mergedAll_settled (texts : List String) :
    Settled texts (mergedAll {} texts) ∧ (mergedAll {} texts).IsNormal ∧
    (∀ text, Patch.parse? text = none → (∀ s, merge s text = .error (.invalid none)) ∧
      ∀ before after, texts = before ++ text :: after →
        mergedAll {} texts = mergedAll {} (before ++ after)) ∧
    ∀ text, mergedAll {} (texts ++ [text, text]) = mergedAll {} (texts ++ [text]) := by
  refine ⟨settled_mergedAll texts, isNormal_mergedAll texts, ?_, ?_⟩
  · intro text htext
    refine ⟨fun s => by simp [merge, htext], ?_⟩
    intro before after htexts
    rw [htexts, mergedAll, mergedAll, List.foldl_append, List.foldl_append, List.foldl_cons,
      merged_of_none htext]
  · intro text
    have htwice : texts ++ [text, text] = texts ++ [text] ++ [text] := by simp
    rw [htwice, mergedAll_concat, mergedAll_concat]
    exact merged_merged (isNormal_mergedAll texts) text

/-- A text with blanks to trim and to drop, one that is no configuration, and one that gives a key
again and another as blank. -/
def sampleTexts : List String :=
  ["[compiler]\nlanguage = \" C \"\ninclude_paths = [\" /usr \", \"\"]\n[server]\nport = 1\n",
    "[compiler\n", "[compiler]\ncommand = \"\"\n[server]\nport = 80\n"]

theorem mergedAll_settled_sample :
    Patch.parse? "[compiler\n" = none ∧
    Settled sampleTexts ⟨⟨"clang", "c", none, ["/usr"], [], false⟩, ⟨"127.0.0.1", 80⟩, .info⟩ ∧
    mergedAll {} (sampleTexts ++ ["[server]\nhost = \" h \"\n", "[server]\nhost = \" h \"\n"]) =
      ⟨⟨"clang", "c", none, ["/usr"], [], false⟩, ⟨"h", 80⟩, .info⟩ := by
  have hparse : Patch.parse? "[compiler\n" = none := by decide +kernel
  have hmerged : mergedAll {} sampleTexts =
      ⟨⟨"clang", "c", none, ["/usr"], [], false⟩, ⟨"127.0.0.1", 80⟩, .info⟩ := by
    decide +kernel
  have hfurther : mergedAll {} (sampleTexts ++ ["[server]\nhost = \" h \"\n"]) =
      ⟨⟨"clang", "c", none, ["/usr"], [], false⟩, ⟨"h", 80⟩, .info⟩ := by
    decide +kernel
  obtain ⟨hsettled, -, -, htwice⟩ := mergedAll_settled sampleTexts
  rw [hmerged] at hsettled
  exact ⟨hparse, hsettled, (htwice _).trans hfurther⟩

end CSymbols.Settings
