import RecordAccess.Command.Decision
import RecordAccess.Proofs.Command.Precedence
import RecordAccess.Proofs.Generation.Outcome
import RecordAccess.Proofs.Source.Tidying

/-!
# What a generation depends on

A generation stops at the first step that fails. It looks at configuration files and a manifest, and at nothing
else; where these are seen as before it comes to the same source. Without a program that formats, its source is
not empty.
-/
namespace RecordAccess

/-- The steps at which a generation can stop, in their order: its settings cannot be loaded, a word is no operation,
the description of the record cannot be read, no package is named, or the run over the record fails. -/
inductive Stops (arguments : Arguments) (options : GenerateOptions) (host : Host) : Failure → Prop
  | loading {failure : Failure} (h : arguments.settings host = .error failure) : Stops arguments options host failure
  | wording {loaded : Settings} {e : GenerationError} (hload : arguments.settings host = .ok loaded)
      (hwords : options.operations ≠ []) (h : parseOperations options.operations = .error e) :
      Stops arguments options host ⟨e.message, []⟩
  | reading {settings : Settings} {failure : Failure} (hsettings : settingsFor arguments options host = .ok settings)
      (h : arguments.description host = .error failure) : Stops arguments options host failure
  | naming {settings : Settings} {description : Description} {e : DescriptionError}
      (hsettings : settingsFor arguments options host = .ok settings)
      (hdescription : arguments.description host = .ok description)
      (h : description.generate (options.generator host settings) arguments.name = .error e) :
      Stops arguments options host ⟨"Failed to generate CRUD functions for " ++ arguments.name, [e.message]⟩
  | running {settings : Settings} {description : Description} {run : Reported GeneratedSource} {e : GenerationError}
      (hsettings : settingsFor arguments options host = .ok settings)
      (hdescription : arguments.description host = .ok description)
      (hrun : description.generate (options.generator host settings) arguments.name = .ok run)
      (h : run.outcome = .error e) :
      Stops arguments options host ⟨"Failed to generate CRUD functions for " ++ arguments.name, [e.message]⟩

section Stops
variable {arguments : Arguments} {options : GenerateOptions} {host : Host} {failure : Failure}

theorem Stops.generated_eq (h : Stops arguments options host failure) :
    generated arguments options host = .error failure := by
  cases h with
  | loading h =>
    refine generated_of_settingsFor_error ?_
    simp only [settingsFor, h]
  | wording hload hwords h =>
    refine generated_of_settingsFor_error ?_
    have refused : ∀ loaded, options.overrule loaded = .error _ := fun loaded => by
      simp only [GenerateOptions.overrule, List.isEmpty_iff, if_neg hwords, h]
      rfl
    simp only [settingsFor, hload, refused]
  | reading hsettings h =>
    rw [generated_eq_bind, hsettings]
    simp only [bind, Except.bind, generatedUnder, h]
  | naming hsettings hdescription h =>
    rw [generated_eq_bind, hsettings]
    simp only [bind, Except.bind, generatedUnder, hdescription, h]
  | running hsettings hdescription hrun h =>
    rw [generated_eq_bind, hsettings]
    simp only [bind, Except.bind, generatedUnder, hdescription, hrun, h]

theorem stops_of_settingsFor_error (h : settingsFor arguments options host = .error failure) :
    Stops arguments options host failure := by
  unfold settingsFor at h
  split at h
  · next refused hload => exact Except.error.inj h ▸ .loading hload
  · next loaded hload =>
    split at h
    · next e refused =>
      obtain rfl := Except.error.inj h
      unfold GenerateOptions.overrule at refused
      dsimp only at refused
      split at refused
      · cases refused
      · next words =>
        split at refused
        · next e' parsed =>
          exact Except.error.inj refused ▸ .wording hload (fun empty => words (List.isEmpty_iff.2 empty)) parsed
        · cases refused
    · cases h

theorem stops_iff : Stops arguments options host failure ↔ generated arguments options host = .error failure := by
  refine ⟨Stops.generated_eq, ?_⟩
  rw [generated_eq_bind]
  intro h
  cases hsettings : settingsFor arguments options host with
  | error refused =>
    rw [hsettings] at h
    exact Except.error.inj h ▸ stops_of_settingsFor_error hsettings
  | ok settings =>
    rw [hsettings] at h
    simp only [bind, Except.bind, generatedUnder] at h
    split at h
    · next refused hdescription => exact Except.error.inj h ▸ .reading hsettings hdescription
    · next description hdescription =>
      split at h
      · next e hrun => exact Except.error.inj h ▸ .naming hsettings hdescription hrun
      · next run hrun =>
        split at h
        · next e houtcome => exact Except.error.inj h ▸ .running hsettings hdescription hrun houtcome
        · cases h

end Stops

section Text
open Config Source Text

theorem trim_ne_nil {s : List Char} {c : Char} (hc : c ∈ s) (hsolid : isBlank c = false) : trim s ≠ [] := by
  intro empty
  obtain ⟨before, after, split, blankBefore, blankAfter⟩ := exists_trim s
  rw [split, empty, List.nil_append] at hc
  rcases List.mem_append.1 hc with hc | hc
  · rw [blankBefore c hc] at hsolid
    cases hsolid
  · rw [blankAfter c hc] at hsolid
    cases hsolid

theorem tidy_ne_nil {s : List Char} (h : trim s ≠ []) : tidy s ≠ [] := by
  rw [tidy_eq h]
  exact List.concat_ne_nil _ _

theorem mem_toList_concat (session : Session) (package : String) : 'p' ∈ (session.concat package).toList := by
  rw [Session.concat, SourceUnit.assemble, SourceUnit.clause]
  simp only [String.toList_append, List.mem_append]
  exact .inl (.inl (.inl (.inl (.inl (by decide)))))

/-- Without a formatter of its own, a run leaves its text as it is or tidies it. -/
theorem finalStep_ne_empty {generator : Generator} (hformatter : generator.formatter = none) {session : Session}
    {package text : String} (h : generator.finalStep (session.concat package) = .ok text) : text ≠ "" := by
  have letter := mem_toList_concat session package
  rintro rfl
  unfold Generator.finalStep at h
  rw [hformatter] at h
  cases hformat : generator.settings.format with
  | none =>
    simp only [hformat, Formatter.passthrough] at h
    rw [Except.ok.inj h] at letter
    cases letter
  | check =>
    simp only [hformat] at h
    obtain ⟨_, _, empty⟩ := Formatter.check_eq_ok_iff.1 h
    exact tidy_ne_nil (trim_ne_nil letter (by decide)) empty.symm

theorem Generator.Outcome.exists_finalStep {generator : Generator} {record : Record} {existing : List String}
    {package : String} {source : GeneratedSource} (h : Generator.Outcome generator record existing package (.ok source)) :
    ∃ session : Session, generator.finalStep (session.concat package) = .ok source.text := by
  cases h with
  | generated _ hformat => exact ⟨_, hformat⟩

theorem exists_finalStep_of_generate {description : Description} {generator : Generator} {name : String}
    {run : Reported GeneratedSource} {source : GeneratedSource}
    (hrun : description.generate generator name = .ok run) (h : run.outcome = .ok source) :
    ∃ (session : Session) (package : String), generator.finalStep (session.concat package) = .ok source.text := by
  cases description with
  | manifest known =>
    obtain rfl := Except.ok.inj hrun
    cases hlookup : known.source.lookup name with
    | error e =>
      simp only [Generator.generateFrom, Generator.generateFromUnder, hlookup] at h
      cases h
    | ok record =>
      obtain ⟨session, final⟩ := ((Generator.outcome_generateFrom_iff hlookup _).1 h).exists_finalStep
      exact ⟨session, _, final⟩
  | inline record =>
    unfold Description.generate at hrun
    dsimp only at hrun
    split at hrun
    · cases hrun
    · obtain rfl := Except.ok.inj hrun
      obtain ⟨session, final⟩ := ((Generator.outcome_generate_iff _).1 h).exists_finalStep
      exact ⟨session, _, final⟩

/-- Without a program that formats, what is generated is not empty. -/
theorem text_ne_empty {arguments : Arguments} {options : GenerateOptions} {host : Host} {result : Generated}
    (hgofmt : options.gofmt = false) (h : generated arguments options host = .ok result) :
    result.source.text ≠ "" := by
  rw [generated_eq_bind, bind_eq_ok_iff] at h
  obtain ⟨settings, _, under⟩ := h
  unfold generatedUnder at under
  dsimp only at under
  split at under
  · cases under
  · next description _ =>
    split at under
    · cases under
    · next run hrun =>
      split at under
      · cases under
      · next source houtcome =>
        obtain rfl := Except.ok.inj under
        obtain ⟨session, package, final⟩ := exists_finalStep_of_generate hrun houtcome
        exact finalStep_ne_empty (by simp only [GenerateOptions.generator, hgofmt]; rfl) final

end Text

/-- The other view shows the same where a generation looks: what stands at the paths of configuration files, the
files among these, and the manifest if it could be read. -/
structure SeenAlike (arguments : Arguments) (view other : View) : Prop where
  working_eq : other.working = view.working
  kind_eq : ∀ path ∈ arguments.configPaths view.working, other.kind? path = view.kind? path
  read_eq : ∀ path ∈ arguments.configPaths view.working, view.kind? path = some .file →
    other.read path = view.read path
  manifest_eq : ∀ path ∈ arguments.manifest, ∀ text, view.read (Path.parse path) = .ok text →
    other.read (Path.parse path) = .ok text

section Seen
open Config
variable {arguments : Arguments} {options : GenerateOptions} {view other : View}

theorem SeenAlike.refl : SeenAlike arguments view view :=
  ⟨rfl, fun _ _ => rfl, fun _ _ _ => rfl, fun _ _ _ h => h⟩

theorem find?_congr_mem {α : Type} {p q : α → Bool} {l : List α} (h : ∀ a ∈ l, p a = q a) :
    l.find? p = l.find? q := by
  induction l with
  | nil => rfl
  | cons a rest ih =>
    rw [List.find?_cons, List.find?_cons, h a List.mem_cons_self,
      ih fun b hb => h b (List.mem_cons_of_mem _ hb)]

theorem SeenAlike.fileLayers_eq (h : SeenAlike arguments view other) {path : Path}
    (hsub : candidates view.working path ⊆ arguments.configPaths view.working) :
    fileLayers other path = fileLayers view path := by
  have found : findFile other path = findFile view path := by
    unfold findFile
    rw [h.working_eq]
    exact find?_congr_mem fun candidate hmem => by rw [h.kind_eq candidate (hsub hmem)]
  unfold fileLayers
  rw [found]
  cases hfind : findFile view path with
  | none => rfl
  | some file =>
    have isFile : view.kind? file = some .file := by simpa using List.find?_some hfind
    have same := h.read_eq file (hsub (List.mem_of_find?_eq_some hfind)) isFile
    simp only [readLayer, same]

theorem SeenAlike.load_eq (h : SeenAlike arguments view other) (environment : List Variable) :
    load other environment (arguments.config.map Path.parse) =
      load view environment (arguments.config.map Path.parse) := by
  have layered : layers other environment (arguments.config.map Path.parse) =
      layers view environment (arguments.config.map Path.parse) := by
    unfold layers
    cases hconfig : arguments.config with
    | some text =>
      have sub : candidates view.working (Path.parse text) ⊆ arguments.configPaths view.working := by
        simp only [Arguments.configPaths, hconfig]
        exact List.Subset.refl _
      simp only [Option.map_some, Option.some_or, Option.elim_some, h.fileLayers_eq sub]
    | none =>
      have paths : arguments.configPaths view.working = usualFile :: candidates view.working usualFile := by
        simp only [Arguments.configPaths, hconfig]
      have sub : candidates view.working usualFile ⊆ arguments.configPaths view.working := by
        rw [paths]
        exact List.subset_cons_self _ _
      have usual : other.kind? usualFile = view.kind? usualFile :=
        h.kind_eq usualFile (paths ▸ List.mem_cons_self)
      simp only [Option.map_none, Option.none_or, usual]
      cases (view.kind? usualFile).isSome with
      | true => simp only [if_true, Option.elim_some, h.fileLayers_eq sub]
      | false => rfl
  unfold load
  rw [layered]

theorem SeenAlike.description_eq (h : SeenAlike arguments view other) {environment : List Variable}
    {gofmt : Filter} {description : Description}
    (hdescription : arguments.description ⟨view, environment, gofmt⟩ = .ok description) :
    arguments.description ⟨other, environment, gofmt⟩ = .ok description := by
  unfold Arguments.description at hdescription ⊢
  cases hmanifest : arguments.manifest with
  | none =>
    rw [hmanifest] at hdescription
    exact hdescription
  | some path =>
    simp only [hmanifest, Arguments.readManifest] at hdescription ⊢
    cases hread : view.read (Path.parse path) with
    | error fault =>
      rw [hread] at hdescription
      cases hdescription
    | ok text =>
      rw [hread] at hdescription
      rw [h.manifest_eq path hmanifest text hread]
      exact hdescription

/-- Whether the text is checked or written makes no difference to it. -/
theorem SeenAlike.generated_eq (h : SeenAlike arguments view other) {environment : List Variable} {gofmt : Filter}
    {result : Generated} (hgofmt : options.gofmt = false) (check : Bool)
    (hgenerated : generated arguments options ⟨view, environment, gofmt⟩ = .ok result) :
    generated arguments { options with check } ⟨other, environment, gofmt⟩ = .ok result := by
  rw [generated_eq_bind, bind_eq_ok_iff] at hgenerated ⊢
  obtain ⟨settings, hsettings, under⟩ := hgenerated
  refine ⟨settings, ?_, ?_⟩
  · rw [settingsFor_eq_ok_iff] at hsettings ⊢
    obtain ⟨loaded, hload, overruled⟩ := hsettings
    exact ⟨loaded, (h.load_eq environment).trans hload, { overruled with }⟩
  · unfold generatedUnder at under ⊢
    cases hdescription : arguments.description ⟨view, environment, gofmt⟩ with
    | error failure =>
      rw [hdescription] at under
      cases under
    | ok description =>
      rw [hdescription] at under
      rw [h.description_eq hdescription]
      simp only [GenerateOptions.generator, hgofmt] at under ⊢
      exact under

end Seen

end RecordAccess
