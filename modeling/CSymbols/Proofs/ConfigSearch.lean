import CSymbols.Proofs.PathComponents
import CSymbols.Settings.File

/-! The search for a configuration file: it goes up from a starting point, one component at a time,
and the nearest file decides. -/
namespace CSymbols

namespace Path

/-- The paths from one upwards, by one parent after the other, until there is none. -/
inductive Ascent : String → List String → Prop
  | top {d : String} (h : parent? d = none) : Ascent d [d]
  | up {d p : String} {dirs : List String} (h : parent? d = some p) (hp : Ascent p dirs) :
      Ascent d (d :: dirs)

/-- One path is the other without its last component, and its text is the front of the other's. -/
def LosesLast (d p : String) : Prop :=
  (∃ last, last ≠ .root ∧ components d.toList = components p.toList ++ [last]) ∧
    p.toList <+: d.toList

/-- The fronts of some components, the longest first. That of an absolute path is absolute. -/
def lexicalAncestors (cs : List Component) : List (List Component) :=
  (cs.inits.filter fun front => (front.head? == some .root) == (cs.head? == some .root)).reverse

theorem parent?_eq_some_iff {d p : String} :
    parent? d = some p ↔ parentChars? d.toList = some p.toList := by
  unfold parent?
  rw [Option.map_eq_some_iff]
  constructor
  · rintro ⟨cs, hcs, rfl⟩
    rwa [String.toList_ofList]
  · intro h
    exact ⟨p.toList, h, String.ofList_toList⟩

theorem losesLast_of_parent? {d p : String} (h : parent? d = some p) : LosesLast d p :=
  parentChars?_eq_some (parent?_eq_some_iff.1 h)

theorem parent?_eq_none_iff {d : String} : parent? d = none ↔
    components d.toList = [] ∨ components d.toList = [.root] := by
  unfold parent?
  rw [Option.map_eq_none_iff, parentChars?_eq_none_iff]

/-- Going up comes to an end, since a component is lost at each step. -/
theorem exists_ascent (d : String) : ∃ dirs, Ascent d dirs := by
  induction hn : (components d.toList).length generalizing d with
  | zero =>
    have hnil : components d.toList = [] := List.length_eq_zero_iff.1 hn
    exact ⟨[d], .top (parent?_eq_none_iff.2 (.inl hnil))⟩
  | succ n ih =>
    cases hp : parent? d with
    | none => exact ⟨[d], .top hp⟩
    | some p =>
      obtain ⟨⟨last, -, hlast⟩, -⟩ := losesLast_of_parent? hp
      have hlength : (components p.toList).length = n := by
        rw [hlast, List.length_append, List.length_singleton] at hn
        omega
      obtain ⟨dirs, hdirs⟩ := ih p hlength
      exact ⟨d :: dirs, .up hp hdirs⟩

theorem Ascent.head? {d : String} {dirs : List String} (h : Ascent d dirs) :
    dirs.head? = some d := by
  cases h <;> rfl

theorem Ascent.unique {d : String} {dirs other : List String} (h : Ascent d dirs)
    (h' : Ascent d other) : other = dirs := by
  induction h generalizing other with
  | top h =>
    cases h' with
    | top _ => rfl
    | up hp _ => simp [hp] at h
  | up h _ ih =>
    cases h' with
    | top hp => simp [hp] at h
    | up hp hother =>
      obtain rfl := Option.some.inj (hp.symm.trans h)
      rw [ih hother]

theorem Ascent.losesLast {d : String} {dirs : List String} (h : Ascent d dirs) :
    dirs.IsChain LosesLast := by
  induction h with
  | top h => exact .singleton _
  | up h hp ih =>
    have hlost := losesLast_of_parent? h
    cases hp with
    | top _ => exact .cons_cons hlost ih
    | up _ _ => exact .cons_cons hlost ih

theorem lexicalAncestors_concat {cs : List Component} {last : Component} (h : last ≠ .root) :
    lexicalAncestors (cs ++ [last]) = (cs ++ [last]) :: lexicalAncestors cs := by
  have hhead : ((cs ++ [last]).head? == some .root) = (cs.head? == some .root) := by
    cases cs with
    | nil => simpa using h
    | cons c cs => rfl
  have hinits : (cs ++ [last]).inits = cs.inits ++ [cs ++ [last]] := by
    rw [List.inits_append]
    rfl
  unfold lexicalAncestors
  rw [hinits, List.filter_append, List.reverse_append, hhead,
    List.filter_cons_of_pos (by rw [hhead, beq_self_eq_true]), List.filter_nil]
  rfl

theorem Ascent.lexicalAncestors {d : String} {dirs : List String} (h : Ascent d dirs) :
    dirs.map (fun d => components d.toList) = Path.lexicalAncestors (components d.toList) := by
  induction h with
  | top h =>
    rw [List.map_singleton]
    rcases parent?_eq_none_iff.1 h with h | h <;> rw [h] <;> rfl
  | up h hp ih =>
    obtain ⟨⟨last, hne, hlast⟩, -⟩ := losesLast_of_parent? h
    rw [List.map_cons, ih, hlast, lexicalAncestors_concat hne]

/-- A path goes up to the root if it begins there, and else to the empty path. -/
theorem Ascent.last {d : String} {dirs : List String} (h : Ascent d dirs) :
    ∀ top ∈ dirs.getLast?, components top.toList =
      if (components d.toList).head? = some .root then [.root] else [] := by
  induction h with
  | top h =>
    intro top htop
    obtain rfl : _ = top := by simpa using htop
    rcases parent?_eq_none_iff.1 h with h | h <;> simp [h]
  | @up d p dirs h hp ih =>
    intro top htop
    have hne : dirs ≠ [] := by
      rintro rfl
      simpa using hp.head?
    rw [List.getLast?_cons_of_ne_nil hne] at htop
    rw [ih top htop]
    obtain ⟨⟨last, hlast, hcs⟩, -⟩ := losesLast_of_parent? h
    rw [hcs]
    cases hp : components p.toList with
    | nil => simp [hlast]
    | cons c cs => simp

end Path

namespace Settings

/-- The directories that a search goes through. A starting point that is a file stands for its
directory. -/
def Searched (fs : FileSystem) (start : String) (dirs : List String) : Prop :=
  (fs.isFile start = false ∧ Path.Ascent start dirs) ∨
    (fs.isFile start = true ∧
      ((∃ p, Path.parent? start = some p ∧ Path.Ascent p dirs) ∨
        (Path.parent? start = none ∧ dirs = [])))

/-- The place of a configuration file in a directory. -/
def candidate (d : String) : String := Path.join d configFileName

/-- The configuration file in the first of some directories that has one. -/
def Nearest (fs : FileSystem) (dirs : List String) (path : String) : Prop :=
  ∃ before d after, dirs = before ++ d :: after ∧ path = candidate d ∧ fs.isFile path = true ∧
    ∀ nearer ∈ before, fs.isFile (candidate nearer) = false

theorem exists_searched (fs : FileSystem) (start : String) : ∃ dirs, Searched fs start dirs := by
  cases hfile : fs.isFile start with
  | false =>
    obtain ⟨dirs, hdirs⟩ := Path.exists_ascent start
    exact ⟨dirs, .inl ⟨hfile, hdirs⟩⟩
  | true =>
    cases hp : Path.parent? start with
    | none => exact ⟨[], .inr ⟨hfile, .inr ⟨hp, rfl⟩⟩⟩
    | some p =>
      obtain ⟨dirs, hdirs⟩ := Path.exists_ascent p
      exact ⟨dirs, .inr ⟨hfile, .inl ⟨p, hp, hdirs⟩⟩⟩

theorem Searched.unique {fs : FileSystem} {start : String} {dirs other : List String}
    (h : Searched fs start dirs) (h' : Searched fs start other) : other = dirs := by
  rcases h with ⟨hfile, hdirs⟩ | ⟨hfile, hdirs⟩
  · rcases h' with ⟨-, hother⟩ | ⟨hfile', -⟩
    · exact hdirs.unique hother
    · simp [hfile] at hfile'
  · rcases h' with ⟨hfile', -⟩ | ⟨-, hother⟩
    · simp [hfile] at hfile'
    · rcases hdirs with ⟨p, hp, hdirs⟩ | ⟨hp, rfl⟩
      · rcases hother with ⟨p', hp', hother⟩ | ⟨hp', -⟩
        · obtain rfl := Option.some.inj (hp'.symm.trans hp)
          exact hdirs.unique hother
        · simp [hp] at hp'
      · rcases hother with ⟨p', hp', -⟩ | ⟨-, rfl⟩
        · simp [hp] at hp'
        · rfl

theorem Searched.ascent {fs : FileSystem} {start d : String} {dirs : List String}
    (h : Searched fs start dirs) (hd : d ∈ dirs.head?) : Path.Ascent d dirs := by
  have hfirst : ∀ p, Path.Ascent p dirs → Path.Ascent d dirs := by
    intro p hp
    obtain rfl : p = d := Option.some.inj (hp.head?.symm.trans hd)
    exact hp
  rcases h with ⟨-, hdirs⟩ | ⟨-, ⟨p, -, hdirs⟩ | ⟨-, rfl⟩⟩
  · exact hfirst start hdirs
  · exact hfirst p hdirs
  · simp at hd

theorem findAbove_eq (fs : FileSystem) (d : String) : findAbove fs d.toList =
    if fs.isFile (candidate d) then some (candidate d)
    else (Path.parent? d).bind fun p => findAbove fs p.toList := by
  rw [findAbove, String.ofList_toList]
  show (if fs.isFile (candidate d) = true then some (candidate d) else _) = _
  congr 1
  unfold Path.parent?
  split
  · rename_i hp
    simp [hp]
  · rename_i parent hp
    simp [hp]

theorem findAbove_eq_find? (fs : FileSystem) {d : String} {dirs : List String}
    (h : Path.Ascent d dirs) :
    findAbove fs d.toList = (dirs.map candidate).find? fs.isFile := by
  induction h with
  | top h => rw [findAbove_eq, h, List.map_singleton, List.find?_singleton, Option.bind_none]
  | up h hp ih =>
    rw [findAbove_eq, h, Option.bind_some, ih, List.map_cons, List.find?_cons]
    split <;> simp_all

theorem findFile_eq_find? {fs : FileSystem} {start : String} {dirs : List String}
    (h : Searched fs start dirs) :
    findFile fs start = (dirs.map candidate).find? fs.isFile := by
  unfold findFile
  rcases h with ⟨hfile, hdirs⟩ | ⟨hfile, ⟨p, hp, hdirs⟩ | ⟨hp, rfl⟩⟩
  · rw [hfile, if_neg (by simp), findAbove_eq_find? fs hdirs]
  · rw [hfile, if_pos rfl, Path.parent?_eq_some_iff.1 hp, Option.bind_some,
      findAbove_eq_find? fs hdirs]
  · have hnone : Path.parentChars? start.toList = none := Option.map_eq_none_iff.1 hp
    rw [hfile, if_pos rfl, hnone]
    rfl

/-- The nearest file is found, if there is one. -/
theorem findFile_eq_some_iff {fs : FileSystem} {start path : String} {dirs : List String}
    (h : Searched fs start dirs) : findFile fs start = some path ↔ Nearest fs dirs path := by
  rw [findFile_eq_find? h, List.find?_eq_some_iff_append]
  unfold Nearest
  constructor
  · rintro ⟨hfile, before, after, hsplit, hbefore⟩
    obtain ⟨front, rest, rfl, rfl, hrest⟩ := List.map_eq_append_iff.1 hsplit
    obtain ⟨d, back, rfl, rfl, rfl⟩ := List.map_eq_cons_iff.1 hrest
    refine ⟨front, d, back, rfl, rfl, hfile, ?_⟩
    intro nearer hnearer
    simpa using hbefore _ (List.mem_map_of_mem hnearer)
  · rintro ⟨before, d, after, rfl, rfl, hfile, hbefore⟩
    refine ⟨hfile, before.map candidate, after.map candidate, by simp, ?_⟩
    intro c hc
    obtain ⟨nearer, hnearer, rfl⟩ := List.mem_map.1 hc
    simp [hbefore nearer hnearer]

theorem findFile_eq_none_iff {fs : FileSystem} {start : String} {dirs : List String}
    (h : Searched fs start dirs) :
    findFile fs start = none ↔ ∀ d ∈ dirs, fs.isFile (candidate d) = false := by
  rw [findFile_eq_find? h, List.find?_eq_none]
  simp

/-- What comes of a file: the settings of its text, or an error that names the file. -/
inductive LoadedFrom (fs : FileSystem) (path : String) :
    Except ConfigError (Settings × Option String) → Prop
  | settings {text : String} {s : Settings} (hr : fs.readText path = .ok text)
      (hs : ofText text = .ok s) : LoadedFrom fs path (.ok (s, some path))
  | unreadable {fault : ReadFault} (hr : fs.readText path = .error fault) :
      LoadedFrom fs path (.error (.unreadable path fault.message))
  | invalid {text : String} {e : ConfigError} (hr : fs.readText path = .ok text)
      (hs : ofText text = .error e) : LoadedFrom fs path (.error (.invalid (some path)))

/-- The error is about the file, and its text says so. -/
def Names (e : ConfigError) (path : String) : Prop :=
  ((∃ reason, e = .unreadable path reason) ∨ e = .invalid (some path)) ∧
    path.toList <:+: e.message.toList

theorem infix_of_append (front path back : String) :
    path.toList <:+: (front ++ path ++ ": " ++ back).toList := by
  rw [String.toList_append, String.toList_append, String.toList_append]
  exact ⟨front.toList, ": ".toList ++ back.toList, by simp only [List.append_assoc]⟩

theorem LoadedFrom.names {fs : FileSystem} {path : String} {e : ConfigError}
    (h : LoadedFrom fs path (.error e)) : Names e path := by
  cases h with
  | @unreadable fault hr =>
    refine ⟨.inl ⟨fault.message, rfl⟩, ?_⟩
    show path.toList <:+: ("cannot read " ++ path ++ ": " ++ fault.message).toList
    exact infix_of_append _ _ _
  | invalid hr hs =>
    refine ⟨.inr rfl, ?_⟩
    show path.toList <:+:
      ("invalid configuration in " ++ path ++ ": " ++ ConfigError.unspecified).toList
    exact infix_of_append _ _ _

theorem error_of_ofText {text : String} {e : ConfigError} (h : ofText text = .error e) :
    e = .invalid none := by
  unfold ofText merge at h
  cases hp : Patch.parse? text with
  | none =>
    rw [hp] at h
    exact (Except.error.inj h).symm
  | some p =>
    rw [hp] at h
    simp at h

theorem loadedFrom_ofFile (fs : FileSystem) (path : String) :
    LoadedFrom fs path ((ofFile fs path).map fun s => (s, some path)) := by
  unfold ofFile
  cases hr : fs.readText path with
  | error fault => exact .unreadable hr
  | ok text =>
    cases hs : ofText text with
    | ok s =>
      simp only [hs]
      exact .settings hr hs
    | error e =>
      obtain rfl := error_of_ofText hs
      simp only [hs]
      exact .invalid hr hs

/-- A named file alone decides what is loaded. -/
theorem load_explicit (fs : FileSystem) (path start : String) :
    load fs (some path) start = (ofFile fs path).map fun s => (s, some path) := rfl

theorem load_of_findFile {fs : FileSystem} {start path : String}
    (h : findFile fs start = some path) :
    load fs none start = (ofFile fs path).map fun s => (s, some path) := by
  unfold load
  rw [Option.none_or, h]

theorem load_eq_defaults_iff {fs : FileSystem} {start : String} :
    load fs none start = .ok ({}, none) ↔ findFile fs start = none := by
  constructor
  · intro h
    cases hfind : findFile fs start with
    | none => rfl
    | some path =>
      have hloaded := loadedFrom_ofFile fs path
      rw [← load_of_findFile hfind, h] at hloaded
      cases hloaded
  · intro h
    unfold load
    rw [Option.none_or, h]

theorem ofFile_congr {fs fs' : FileSystem} {path : String}
    (h : fs'.lookup path = fs.lookup path) : ofFile fs' path = ofFile fs path := by
  unfold ofFile FileSystem.readText
  rw [h]

/-- The search goes up from the starting point to the root or to the empty path, through all lexical
ancestors, and finds the nearest configuration file. The settings come from the named file, or else
from the nearest one, and there is no other way to go on if that file is of no use. Only without any
file they are the defaults. -/
theorem load_nearest (fs : FileSystem) (start : String) : ∃ dirs,
    (∀ other, Searched fs start other ↔ other = dirs) ∧
    dirs.IsChain Path.LosesLast ∧
    (∀ d ∈ dirs.head?,
      dirs.map (fun d => Path.components d.toList) =
        Path.lexicalAncestors (Path.components d.toList) ∧
      ∀ top ∈ dirs.getLast?, if (Path.components d.toList).head? = some .root
        then Path.components top.toList = Path.components "/".toList else top = "") ∧
    (∀ path, findFile fs start = some path ↔ Nearest fs dirs path) ∧
    (findFile fs start = none ↔ ∀ d ∈ dirs, fs.isFile (candidate d) = false) ∧
    (∀ path, LoadedFrom fs path (load fs (some path) start) ∧
      ∀ fs' start', fs'.lookup path = fs.lookup path →
        load fs' (some path) start' = load fs (some path) start) ∧
    (load fs none start = .ok ({}, none) ↔ ∀ d ∈ dirs, fs.isFile (candidate d) = false) ∧
    (∀ path, Nearest fs dirs path → LoadedFrom fs path (load fs none start)) ∧
    ∀ path e, LoadedFrom fs path (.error e) → Names e path := by
  obtain ⟨dirs, hdirs⟩ := exists_searched fs start
  have honly : ∀ other, Searched fs start other ↔ other = dirs :=
    fun other => ⟨hdirs.unique, fun h => h ▸ hdirs⟩
  refine ⟨dirs, honly, ?_, ?_, fun path => findFile_eq_some_iff hdirs, findFile_eq_none_iff hdirs,
    ?_, ?_, ?_, fun path e h => h.names⟩
  · cases hd : dirs.head? with
    | none =>
      rw [List.head?_eq_none_iff.1 hd]
      exact .nil
    | some d => exact (hdirs.ascent hd).losesLast
  · intro d hd
    refine ⟨(hdirs.ascent hd).lexicalAncestors, ?_⟩
    intro top htop
    have hlast := (hdirs.ascent hd).last top htop
    split
    · rename_i hroot
      rw [hlast, if_pos hroot]
      rfl
    · rename_i hroot
      rw [if_neg hroot, Path.components_eq_nil_iff] at hlast
      exact String.toList_eq_nil_iff.1 hlast
  · intro path
    refine ⟨loadedFrom_ofFile fs path, ?_⟩
    intro fs' start' hlookup
    rw [load_explicit, load_explicit, ofFile_congr hlookup]
  · rw [load_eq_defaults_iff, findFile_eq_none_iff hdirs]
  · intro path hnearest
    rw [load_of_findFile ((findFile_eq_some_iff hdirs).2 hnearest)]
    exact loadedFrom_ofFile fs path

/-- A directory in the place of a configuration file, a file above it that is no configuration, and
an empty one further up. -/
def brokenFiles : FileSystem where
  lookup path :=
    if path = "a//b/./c.c" ∨ path = "cparser.toml" then .file []
    else if path = "a//b/cparser.toml" then .directory
    else if path = "a/cparser.toml" then .file ("[compiler".toList.map fun c => c.toNat.toUInt8)
    else .missing

theorem load_nearest_broken :
    Searched brokenFiles "a//b/./c.c" ["a//b", "a", ""] ∧
    Nearest brokenFiles ["a//b", "a", ""] "a/cparser.toml" ∧
    load brokenFiles none "a//b/./c.c" = .error (.invalid (some "a/cparser.toml")) ∧
    Names (.invalid (some "a/cparser.toml")) "a/cparser.toml" := by
  have hsearched : Searched brokenFiles "a//b/./c.c" ["a//b", "a", ""] := by
    right
    refine ⟨by decide +kernel, .inl ⟨"a//b", by decide +kernel, ?_⟩⟩
    exact .up (by decide +kernel) (.up (by decide +kernel) (.top (by decide +kernel)))
  have hnearest : Nearest brokenFiles ["a//b", "a", ""] "a/cparser.toml" :=
    ⟨["a//b"], "a", [""], rfl, by decide +kernel, by decide +kernel, by decide +kernel⟩
  have htext : brokenFiles.readText "a/cparser.toml" = .ok "[compiler" := by decide +kernel
  have hinvalid : ofText "[compiler" = .error (.invalid none) := by decide +kernel
  obtain ⟨dirs, honly, -, -, -, -, -, -, hload, hnames⟩ := load_nearest brokenFiles "a//b/./c.c"
  obtain rfl := (honly _).1 hsearched
  have hloaded := hload "a/cparser.toml" hnearest
  have hresult : load brokenFiles none "a//b/./c.c" =
      .error (.invalid (some "a/cparser.toml")) := by
    cases hl : load brokenFiles none "a//b/./c.c" with
    | ok r =>
      rw [hl] at hloaded
      cases hloaded with
      | settings hr hs => simp_all
    | error e =>
      rw [hl] at hloaded
      cases hloaded with
      | unreadable hr => simp_all
      | invalid hr hs => rfl
  rw [hresult] at hloaded
  exact ⟨hsearched, hnearest, hresult, hnames _ _ hloaded⟩

end Settings
end CSymbols
