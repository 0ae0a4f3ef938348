import RecordAccess.Command.Run
import RecordAccess.Proofs.Command.Generating
import RecordAccess.Proofs.Host.Trees

/-!
# What a generation leaves behind

A generation that stops leaves the tree as it was. With a check it compares only, and its status tells whether the
text stands where the output leads. Without one, the text goes to that place, directories are made on the way, and
nothing else changes; so a check right after finds the text, unless it went to a device, or over something that was
read, or a directory that was made brings a configuration file into view.
-/
namespace RecordAccess
open CommandLine Config

section Lines
variable {words : List String} {arguments : Arguments} {options : GenerateOptions}

theorem output_of_ofVerb {verb : Verb} (h : ofVerb verb words = some (.generate arguments options))
    (hcheck : options.check = true) : ∃ target, options.output = some target := by
  obtain ⟨items, _, hitems⟩ := Option.bind_eq_some_iff.1 h
  split at hitems
  · next record _ =>
    split at hitems
    · next fitting =>
      cases verb with
      | inspect => cases Option.some.inj hitems
      | generate =>
        obtain ⟨_, rfl⟩ := Command.generate.inj (Option.some.inj hitems)
        have outputs := (Bool.and_eq_true_iff.1 fitting).2
        cases hvalues : valuesOf items .output with
        | nil =>
          have unchecked : isGiven items .check = false := by simpa [hvalues] using outputs
          exact absurd (hcheck.symm.trans unchecked) (by decide)
        | cons target rest => exact ⟨target, rfl⟩
    · cases hitems
  · cases hitems

/-- A line with a check is accepted only with an output. -/
theorem output_of_parse (h : Invocation.parse words = some (.command (.generate arguments options)))
    (hcheck : options.check = true) : ∃ target, options.output = some target := by
  induction words with
  | nil => cases h
  | cons word rest ih =>
    unfold Invocation.parse at h
    split at h
    · obtain ⟨command, parsed, same⟩ := Option.map_eq_some_iff.1 h
      exact output_of_ofVerb (Invocation.command.inj same ▸ parsed) hcheck
    · split at h
      · obtain ⟨command, parsed, same⟩ := Option.map_eq_some_iff.1 h
        exact output_of_ofVerb (Invocation.command.inj same ▸ parsed) hcheck
      · split at h
        · cases h
        · split at h
          · exact ih h
          · cases h

end Lines

/-- A comparison of the text with what stands where a path leads: nothing changes, and the status tells what was
found. -/
structure Compares (tree : FileTree) (working : List String) (path : Path) (text : String)
    (run : Outcome × FileTree) : Prop where
  tree_eq : run.2 = tree
  upToDate_iff : run.1.status = 0 ↔ tree.look working path = .ok (.file (some text))
  outOfDate_iff : run.1.status = 2 ↔
    tree.look working path = .error .notFound ∨ ∃ current, tree.read working path = .ok current ∧ current ≠ text
  status : run.1.status = 0 ∨ run.1.status = 1 ∨ run.1.status = 2

/-- What a run that wrote a text leaves: at each place where something changed there is the text, at the end of the
path, or a directory at the end of a part of the path, where nothing stood. -/
structure Leaves (tree : FileTree) (working : List String) (path : Path) (text : String) (after : FileTree) :
    Prop where
  changes : ∀ place, after.find? place ≠ tree.find? place →
    after.locate working path = .ok place ∧ after.find? place = some (.file (some text)) ∨
    tree.find? place = none ∧ after.find? place = some .directory ∧
      ∃ around ∈ path.ancestors, after.locate working around = .ok place
  keeps : FileTree.Keeps tree after
  look : after.look working path = .ok (.file (some text)) ∨
    ∃ device, after.look working path = .ok (.device device)

/-- What is written to is no device and nothing that is read, and a path for a configuration file at which nothing
stood still leads to nothing. -/
structure Apart (arguments : Arguments) (tree : FileTree) (working : List String) (path : Path)
    (after : FileTree) : Prop where
  no_device : ∀ device, after.look working path ≠ .ok (.device device)
  unread : ∀ other ∈ arguments.configPaths working ++ (arguments.manifest.map Path.parse).toList, ∀ place,
    after.locate working other = .ok place → after.locate working path ≠ .ok place
  unseen : ∀ other ∈ arguments.configPaths working, tree.kind? working other = none →
    after.kind? working other = none

section Effects
variable {arguments : Arguments} {options : GenerateOptions} {tree after : FileTree} {working : List String}
  {environment : List Variable} {path : Path} {text : String}

/-- A comparison fails only over what cannot be read; what is not there differs from every text but the empty one. -/
theorem compare_status (view : View) (path : String) (h : text ≠ "") :
    (compare view path text).status = 0 ∧ view.read (Path.parse path) = .ok text ∨
    (compare view path text).status = 2 ∧ (view.read (Path.parse path) = .error (.host .notFound) ∨
      ∃ current, view.read (Path.parse path) = .ok current ∧ current ≠ text) ∨
    (compare view path text).status = 1 ∧ ∃ fault, view.read (Path.parse path) = .error fault ∧
      fault ≠ .host .notFound := by
  cases hread : view.read (Path.parse path) with
  | ok current =>
    by_cases same : current = text
    · refine .inl ⟨?_, congrArg Except.ok same⟩
      simp only [compare, hread, if_pos same]
    · refine .inr (.inl ⟨?_, .inr ⟨current, rfl, same⟩⟩)
      simp only [compare, hread, if_neg same]
  | error fault =>
    by_cases missing : fault = .host .notFound
    · subst missing
      refine .inr (.inl ⟨?_, .inl rfl⟩)
      simp only [compare, hread, if_neg h.symm]
    · refine .inr (.inr ⟨?_, fault, rfl, missing⟩)
      unfold compare
      rw [hread]
      cases fault with
      | notText => rfl
      | host fault =>
        cases fault with
        | notFound => exact absurd rfl missing
        | _ => rfl

theorem compares_compare (path : String) (h : text ≠ "") :
    Compares tree working (Path.parse path) text (compare (tree.view working) path text, tree) := by
  have outcomes := compare_status (tree.view working) path h
  have read_eq : (tree.view working).read (Path.parse path) = tree.read working (Path.parse path) := rfl
  rw [read_eq] at outcomes
  refine ⟨rfl, ?_, ?_, ?_⟩
  · rw [← FileTree.read_eq_ok_iff h]
    rcases outcomes with ⟨status, found⟩ | ⟨status, found⟩ | ⟨status, fault, found, known⟩
    · simp [status, found]
    · rcases found with found | ⟨current, found, differs⟩
      · simp [status, found]
      · simp [status, found, differs]
    · simp [status, found]
  · rw [← FileTree.read_eq_notFound_iff]
    rcases outcomes with ⟨status, found⟩ | ⟨status, found⟩ | ⟨status, fault, found, known⟩
    · simp [status, found]
    · simp [status, found]
    · simp [status, found, known]
  · rcases outcomes with ⟨status, _⟩ | ⟨status, _⟩ | ⟨status, _⟩
    · exact .inl status
    · exact .inr (.inr status)
    · exact .inr (.inl status)

theorem exists_prepared {writing : Writing} (h : (tree.carryOut working writing).1.status = 0) :
    ∃ prepared, tree.makeDirectories working (Path.parse writing.target).ancestors = .ok prepared ∧
      prepared.write working (Path.parse writing.target) writing.text = .ok (tree.carryOut working writing).2 := by
  unfold FileTree.carryOut at h ⊢
  dsimp only at h ⊢
  cases hmake : tree.makeDirectories working (Path.parse writing.target).ancestors with
  | error fault =>
    rw [hmake] at h
    cases h
  | ok prepared =>
    refine ⟨prepared, rfl, ?_⟩
    cases hwrite : prepared.write working (Path.parse writing.target) writing.text with
    | error fault =>
      simp only [hmake, hwrite] at h
      cases h
    | ok written => simp only [hwrite]

/-- The directories that are made stand where nothing stood, and then one place gets the text. -/
theorem leaves_of_write {prepared : FileTree} (hmake : tree.makeDirectories working path.ancestors = .ok prepared)
    (hwrite : prepared.write working path text = .ok after) : Leaves tree working path text after := by
  have grown := FileTree.grows_makeDirectories hmake
  obtain ⟨plain, place, hlocate, written⟩ := FileTree.exists_written hwrite
  have there := FileTree.locate_of_keeps written.keeps hlocate
  refine ⟨?_, fun place h => written.keeps place (grown.keeps place h), ?_⟩
  · intro other changed
    by_cases later : after.find? other = prepared.find? other
    · rw [later] at changed ⊢
      obtain ⟨absent, made, around, haround, leads⟩ := grown other changed
      exact .inr ⟨absent, made, around, haround, FileTree.locate_of_keeps written.keeps leads⟩
    · obtain ⟨rfl, text⟩ := written.find?_eq later
      exact .inl ⟨there, text⟩
  · have inside := written.ne_nil
    cases written with
    | @device device found =>
      refine .inr ⟨device, ?_⟩
      simp only [FileTree.look, hlocate, found, plain]
      rfl
    | file => exact .inl (FileTree.look_eq_file there plain (FileTree.find?_put_self inside))

/-- What was seen at a path that does not lead to the output is seen again. -/
theorem Leaves.look_eq (h : Leaves tree working path text after) {other : Path} {node : TreeNode}
    (hlook : tree.look working other = .ok node)
    (elsewhere : ∀ place, after.locate working other = .ok place → after.locate working path ≠ .ok place) :
    after.look working other = .ok node := by
  refine FileTree.look_of_keeps h.keeps hlook ?_
  intro place hlocate
  by_contra changed
  rcases h.changes place changed with ⟨output, _⟩ | ⟨absent, _⟩
  · exact elsewhere place (FileTree.locate_of_keeps h.keeps hlocate) output
  · obtain ⟨found, leads, stands⟩ := FileTree.exists_locate_of_look hlook
    obtain rfl := Except.ok.inj (hlocate.symm.trans leads)
    rw [absent] at stands
    cases stands

theorem Leaves.seenAlike (h : Leaves tree working path text after)
    (apart : Apart arguments tree working path after) :
    SeenAlike arguments (tree.view working) (after.view working) := by
  have again : ∀ other ∈ arguments.configPaths working, ∀ node, tree.look working other = .ok node →
      after.look working other = .ok node := by
    intro other hother node hlook
    exact h.look_eq hlook (apart.unread other (List.mem_append_left _ hother))
  refine ⟨rfl, ?_, ?_, ?_⟩
  · intro other hother
    change after.kind? working other = tree.kind? working other
    cases hlook : tree.look working other with
    | error fault =>
      have none : tree.kind? working other = none := by rw [FileTree.kind?, hlook]
      rw [none, apart.unseen other hother none]
    | ok node => rw [FileTree.kind?, FileTree.kind?, hlook, again other hother node hlook]
  · intro other hother isFile
    change after.read working other = tree.read working other
    have seen : tree.kind? working other = some .file := isFile
    cases hlook : tree.look working other with
    | error fault =>
      rw [FileTree.kind?, hlook] at seen
      cases seen
    | ok node => rw [FileTree.read, FileTree.read, hlook, again other hother node hlook]
  · intro manifest hmanifest text readable
    have known : Path.parse manifest ∈
        arguments.configPaths working ++ (arguments.manifest.map Path.parse).toList := by
      rw [Option.mem_def.1 hmanifest]
      exact List.mem_append_right _ (List.mem_singleton_self _)
    have reads : tree.read working (Path.parse manifest) = .ok text := readable
    change after.read working (Path.parse manifest) = .ok text
    cases hlook : tree.look working (Path.parse manifest) with
    | error fault =>
      rw [FileTree.read, hlook] at reads
      cases reads
    | ok node => rw [FileTree.read, h.look_eq hlook (apart.unread _ known), ← reads, FileTree.read, hlook]

theorem decide_of_generated {host : Host} {result : Generated} (h : generated arguments options host = .ok result) :
    (Command.generate arguments options).decide host = deliver options host.view result := by
  simp only [Command.decide, h]

theorem run_of_stops {failure : Failure}
    (h : Stops arguments options { view := tree.view working, environment } failure) :
    (Command.generate arguments options).run tree working environment = (failure.outcome, tree) := by
  simp only [Command.run, Command.decide, h.generated_eq]

theorem compares_of_check {result : Generated} {target : String} (hgofmt : options.gofmt = false)
    (h : generated arguments options { view := tree.view working, environment } = .ok result)
    (hcheck : options.check = true) (houtput : options.output = some target) :
    Compares tree working (Path.parse target) result.source.text
      ((Command.generate arguments options).run tree working environment) := by
  have run : (Command.generate arguments options).run tree working environment =
      (compare (tree.view working) target result.source.text, tree) := by
    unfold Command.run
    rw [decide_of_generated h]
    simp only [deliver, houtput, hcheck]
    rfl
  rw [run]
  exact compares_compare target (text_ne_empty hgofmt h)

theorem leaves_of_run {result : Generated} {target : String}
    (h : generated arguments options { view := tree.view working, environment } = .ok result)
    (hcheck : options.check = false) (houtput : options.output = some target)
    (hstatus : ((Command.generate arguments options).run tree working environment).1.status = 0) :
    Leaves tree working (Path.parse target) result.source.text
      ((Command.generate arguments options).run tree working environment).2 := by
  have run : (Command.generate arguments options).run tree working environment =
      tree.carryOut working ⟨target, result.source.text, { status := 0, messages := wroteMessage result target }⟩ := by
    unfold Command.run
    rw [decide_of_generated h]
    simp only [deliver, houtput, hcheck]
    rfl
  rw [run] at hstatus ⊢
  obtain ⟨prepared, hmake, hwrite⟩ := exists_prepared hstatus
  exact leaves_of_write hmake hwrite

/-- A check right after finds the text where it was written. -/
theorem Leaves.recheck {result : Generated} {target : String} (hgofmt : options.gofmt = false)
    (h : generated arguments options { view := tree.view working, environment } = .ok result)
    (houtput : options.output = some target)
    (leaves : Leaves tree working (Path.parse target) result.source.text after)
    (apart : Apart arguments tree working (Path.parse target) after) :
    ((Command.generate arguments { options with check := true }).run after working environment).1.status = 0 := by
  have again := (leaves.seenAlike apart).generated_eq hgofmt true h
  have compares := @compares_of_check arguments { options with check := true } after working environment result
    target hgofmt again rfl houtput
  refine compares.upToDate_iff.2 ?_
  rcases leaves.look with found | ⟨device, found⟩
  · exact found
  · exact absurd found (apart.no_device device)

/-- A generation that stops fails without a trace. Otherwise a check changes nothing and tells by its status whether
the text stands in the file, or differs from what can be read there, nothing counting as an empty text where the
host says that nothing is there. A run that writes changes the output only, makes directories around it, and a check
right after finds the text, if the output is apart from what is read. -/
theorem generation_effects {words : List String}
    (hparse : Invocation.parse words = some (.command (.generate arguments options)))
    (hgofmt : options.gofmt = false) (tree : FileTree) (working : List String) (environment : List Variable) :
    let host : Host := { view := tree.view working, environment }
    let run := (Command.generate arguments options).run tree working environment
    (∀ failure, Stops arguments options host failure → run.1.status = 1 ∧ run.1.output = "" ∧ run.2 = tree) ∧
    ((∀ failure, ¬Stops arguments options host failure) → ∃ result, generated arguments options host = .ok result) ∧
    ∀ result, generated arguments options host = .ok result →
      (∀ check, generated arguments { options with check } host = .ok result) ∧
      (options.check = true → ∃ target, options.output = some target ∧
        Compares tree working (Path.parse target) result.source.text run) ∧
      ∀ target, options.output = some target → options.check = false → run.1.status = 0 →
        Leaves tree working (Path.parse target) result.source.text run.2 ∧
        (Apart arguments tree working (Path.parse target) run.2 →
          ((Command.generate arguments { options with check := true }).run run.2 working environment).1.status =
            0) := by
  intro host run
  refine ⟨?_, ?_, ?_⟩
  · intro failure stops
    have failed : run = (failure.outcome, tree) := run_of_stops stops
    rw [failed]
    exact ⟨rfl, rfl, rfl⟩
  · intro unstopped
    cases hgenerated : generated arguments options host with
    | error failure => exact absurd (stops_iff.2 hgenerated) (unstopped failure)
    | ok result => exact ⟨result, rfl⟩
  · intro result hgenerated
    refine ⟨fun check => SeenAlike.refl.generated_eq hgofmt check hgenerated, ?_, ?_⟩
    · intro hcheck
      obtain ⟨target, houtput⟩ := output_of_parse hparse hcheck
      exact ⟨target, houtput, compares_of_check hgofmt hgenerated hcheck houtput⟩
    · intro target houtput hcheck hstatus
      have leaves := leaves_of_run hgenerated hcheck houtput hstatus
      exact ⟨leaves, leaves.recheck hgofmt hgenerated houtput⟩

/-- A file is written into a directory that has to be made, beside a configuration file, and found by a check right
after. -/
theorem generation_effects_nested :
    let line := ["generate", "Note", "--field", "ID:int64:id", "--pkg", "notes", "--fn", "get", "-o", "out/note.go"]
    let arguments : Arguments := { record := "Note", fields := ["ID:int64:id"], package := some "notes" }
    let options : GenerateOptions := { operations := ["get"], output := some "out/note.go" }
    let tree : FileTree := ⟨[(["crudgen.toml"], .file (some "format = \"none\"\n"))]⟩
    let written := (Command.generate arguments options).run tree [] []
    Invocation.parse line = some (.command (.generate arguments options)) ∧ written.1.status = 0 ∧
      (∃ text, Leaves tree [] (Path.parse "out/note.go") text written.2 ∧
        written.2.look [] (Path.parse "out/note.go") = .ok (.file (some text))) ∧
      ((Command.generate arguments { options with check := true }).run written.2 [] []).1.status = 0 := by
  intro line arguments options tree written
  have parsed : Invocation.parse line = some (.command (.generate arguments options)) := by decide +kernel
  have status : written.1.status = 0 := by decide +kernel
  obtain ⟨stopped, unstopped, effects⟩ := generation_effects parsed rfl tree [] []
  obtain ⟨result, hgenerated⟩ := unstopped <| by
    intro failure stops
    have failed := (stopped failure stops).1
    exact absurd (status.symm.trans failed) (by decide)
  obtain ⟨leaves, recheck⟩ := (effects result hgenerated).2.2 "out/note.go" rfl rfl status
  have output : written.2.locate [] (Path.parse "out/note.go") = .ok ["out", "note.go"] := by decide +kernel
  have no_device : ∀ device, written.2.look [] (Path.parse "out/note.go") ≠ .ok (.device device) := by
    intro device
    cases device <;> decide +kernel
  have apart : Apart arguments tree [] (Path.parse "out/note.go") written.2 := by
    refine ⟨no_device, ?_, by decide +kernel⟩
    have elsewhere : ∀ other ∈ arguments.configPaths [] ++ (arguments.manifest.map Path.parse).toList,
        written.2.locate [] other ≠ .ok ["out", "note.go"] := by decide +kernel
    intro other hother place hplace same
    obtain rfl := Except.ok.inj (output.symm.trans same)
    exact elsewhere other hother hplace
  have found := leaves.look.resolve_right fun ⟨device, h⟩ => no_device device h
  exact ⟨parsed, status, ⟨_, leaves, found⟩, recheck apart⟩

/-- A device keeps no text for the check that follows; a path through a file leads to nothing, but the host does not
say so; and a directory that is made for the output can bring a configuration file into view. -/
theorem check_after_write_differs :
    let line := ["generate", "Note", "--field", "ID:int64:id", "--pkg", "notes", "--fn", "get"]
    let run (tree : FileTree) (line : List String) : Option (Outcome × FileTree) :=
      (Invocation.parse line).map fun invocation => invocation.run tree [] [⟨"CRUDGEN_FORMAT", "none"⟩]
    let rerun (tree : FileTree) (line : List String) : Option (Nat × Nat) :=
      (run tree line).bind fun first =>
        (run first.2 (line ++ ["--check"])).map fun second => (first.1.status, second.1.status)
    let noted : FileTree := ⟨[(["note"], .file (some ""))]⟩
    let configured : FileTree := ⟨[(["settings.toml"], .file (some "table = 1\n"))]⟩
    rerun FileTree.devices (line ++ ["-o", "/dev/null"]) = some (0, 2) ∧
      noted.look [] (Path.parse "note/get.go") = .error .notADirectory ∧
      (run noted (line ++ ["-o", "note/get.go", "--check"])).map (fun checked => checked.1.status) = some 1 ∧
      rerun configured (line ++ ["--config", "made/../settings.toml", "-o", "made/get.go"]) = some (0, 1) := by
  decide +kernel

end Effects
end RecordAccess
