import RecordAccess.Config.Load
import RecordAccess.Proofs.Config.Variables
import RecordAccess.Proofs.Toml.Lines

/-!
# Loading settings

Where the configuration file can be read, or there is none, each key is settled by the value that is supplied for
it: that of the last variable for the key, else that of the file, else the default holds.
-/
namespace RecordAccess.Config

/-- The path of the file that is looked for. -/
def wanted (view : View) (path? : Option Path) : Option Path :=
  path?.or (if (view.kind? usualFile).isSome then some usualFile else none)

/-- The configuration file says this; without a file, nothing is said. -/
inductive FileSays (view : View) (path? : Option Path) : List (String × Value) → Prop
  | nothing (h : ∀ path ∈ wanted view path?, findFile view path = none) : FileSays view path? []
  | parsed {path found : Path} {text : String} {entries : List (String × Value)}
      (hpath : wanted view path? = some path) (hfound : findFile view path = some found)
      (hread : view.read found = .ok text) (hparse : Toml.parse text = some entries) :
      FileSays view path? entries

/-- The value that counts for a key: the environment goes before the file. -/
def supplied (environment : List Variable) (entries : List (String × Value)) (key : Key) : Option Value :=
  (lastOf (environment.filterMap Variable.entry) key.name).or (lastOf entries key.name)

section Loading
variable {view : View} {environment : List Variable} {path? : Option Path} {entries : List (String × Value)}
  {settings : Settings}

theorem layers_eq_ok {files : List Layer} (h : (wanted view path?).elim (.ok []) (fileLayers view) = .ok files) :
    layers view environment path? = .ok (files ++ [variableLayer environment]) := by
  rw [wanted] at h
  simp only [layers, h]

theorem FileSays.exists_layers (h : FileSays view path? entries) (environment : List Variable) :
    ∃ files, layers view environment path? = .ok (files ++ [variableLayer environment]) ∧
      files.flatMap Layer.entries = entries := by
  cases h with
  | nothing h =>
    refine ⟨[], layers_eq_ok ?_, rfl⟩
    cases hpath : wanted view path? with
    | none => rfl
    | some path =>
      have absent := h path hpath
      simp only [Option.elim_some, fileLayers, absent]
  | @parsed path found text _ hpath hfound hread hparse =>
    refine ⟨[⟨.file found.text, entries⟩], layers_eq_ok ?_, List.append_nil _⟩
    rw [hpath]
    simp only [Option.elim_some, fileLayers, hfound, readLayer, hread, hparse]

/-- A file of lines that define no key twice says what the lines supply, so the line of a key counts unless a
variable does. -/
theorem exists_fileSays {path found : Path} {text : String} {lines : List (String × Value)}
    (hpath : wanted view path? = some path) (hfound : findFile view path = some found)
    (hread : view.read found = .ok text) (supplies : Toml.Supplies (Toml.skipMark text.toList) lines)
    (distinct : (lines.map Prod.fst).Nodup) : ∃ entries, FileSays view path? entries ∧
      ∀ environment, ∀ key : Key, supplied environment entries key =
        (lastOf (environment.filterMap Variable.entry) key.name).or (lines.lookup key.name) := by
  obtain ⟨entries, hparse, perm, ascending⟩ := Toml.parse_of_supplies supplies distinct
  refine ⟨entries, .parsed hpath hfound hread hparse, fun environment key => ?_⟩
  have keys : (entries.map Prod.fst).Nodup := (perm.map Prod.fst).nodup_iff.2 distinct
  rw [supplied, ascending.lastOf_eq, Toml.lookup_eq_of_perm perm keys]

theorem flat_lastOf_layers {files : List Layer} (hfiles : files.flatMap Layer.entries = entries) (key : Key) :
    (lastOf ((files ++ [variableLayer environment]).flatMap Layer.entries) key.name).map Value.flat =
      (supplied environment entries key).map Value.flat := by
  have joint : (files ++ [variableLayer environment]).flatMap Layer.entries =
      entries ++ (variableLayer environment).entries := by
    rw [List.flatMap_append, hfiles, List.flatMap_singleton]
  rw [joint, lastOf_append, supplied, Option.map_or, Option.map_or, flat_lastOf_variableLayer]

theorem load_eq_ok_iff (h : FileSays view path? entries) :
    load view environment path? = .ok settings ↔
      ∀ key : Key, key.Holds settings (supplied environment entries key) := by
  obtain ⟨files, hlayers, hfiles⟩ := h.exists_layers environment
  unfold load
  simp only [hlayers, settingsOf_eq_ok_iff]
  exact forall_congr' fun key => Key.holds_iff_of_flat_eq (flat_lastOf_layers hfiles key)

/-- Loading fails only over a value that counts and has the wrong type. -/
theorem exists_load_iff (h : FileSays view path? entries) :
    (∃ settings, load view environment path? = .ok settings) ↔
      ∀ key : Key, ∀ value ∈ supplied environment entries key, ∃ setting, key.Means value setting := by
  rw [← Key.exists_holds_iff]
  exact exists_congr fun settings => load_eq_ok_iff h

theorem lastOf_eq_none {key : String} (h : ∀ entry ∈ entries, entry.1 ≠ key) : lastOf entries key = none := by
  rw [lastOf, List.lookup_eq_none_iff]
  intro entry hentry
  exact bne_iff_ne.2 (h entry (List.mem_reverse.1 hentry)).symm

/-- No variable leads to the key. -/
def Unsupplied (environment : List Variable) (key : Key) : Prop :=
  ∀ var ∈ environment, ∀ entry ∈ var.entry, entry.1 ≠ key.name

theorem Unsupplied.lastOf_eq {key : Key} (h : Unsupplied environment key) :
    lastOf (environment.filterMap Variable.entry) key.name = none := by
  refine lastOf_eq_none ?_
  intro entry hentry
  obtain ⟨var, hvar, made⟩ := List.mem_filterMap.1 hentry
  exact h var hvar entry made

theorem Unsupplied.supplied_eq {key : Key} (h : Unsupplied environment key) :
    supplied environment entries key = lastOf entries key.name := by
  rw [supplied, h.lastOf_eq, Option.none_or]

/-- The last variable for a key counts, whatever other layers hold for the key. -/
theorem supplied_of_spells {var : Variable} {key : Key} (h : var.Spells key) (before : List Variable)
    {after : List Variable} (hafter : Unsupplied after key) :
    supplied (before ++ var :: after) entries key = some var.content := by
  have given : (before ++ var :: after).filterMap Variable.entry =
      before.filterMap Variable.entry ++ ((key.name, var.content) :: after.filterMap Variable.entry) := by
    rw [List.filterMap_append, List.filterMap_cons, Variable.entry_of_spells h]
  rw [supplied, given, lastOf_append, lastOf_cons, hafter.lastOf_eq, if_pos rfl]
  rfl

end Loading

end RecordAccess.Config
