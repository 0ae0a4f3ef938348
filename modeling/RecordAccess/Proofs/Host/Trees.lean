import Mathlib.Tactic.ByContra
import RecordAccess.Host.Tree

/-!
# What a change leaves in a tree

Making directories puts directories where nothing stood, and writing a file changes what stands at one place. No
directory goes away, so a path that led to a place still leads there.
-/
namespace RecordAccess.FileTree

section Places
variable {tree : FileTree} {names other : List String} {node : TreeNode}

theorem lookup_filter_ne {nodes : List (List String × TreeNode)} (h : other ≠ names) :
    (nodes.filter (·.1 ≠ names)).lookup other = nodes.lookup other := by
  induction nodes with
  | nil => rfl
  | cons entry rest ih =>
    obtain ⟨place, node⟩ := entry
    by_cases hplace : place = names
    · subst hplace
      rw [List.filter_cons_of_neg (by simp), ih, List.lookup_cons, beq_false_of_ne h]
    · rw [List.filter_cons_of_pos (by simpa using hplace), List.lookup_cons, List.lookup_cons, ih]

theorem find?_put_of_ne (h : other ≠ names) : (tree.put names node).find? other = tree.find? other := by
  unfold find? put
  rw [List.lookup_cons, beq_false_of_ne h, lookup_filter_ne h]

theorem find?_put_self (h : names ≠ []) : (tree.put names node).find? names = some node := by
  unfold find? put
  rw [List.lookup_cons_self, if_neg (by simpa using h)]

end Places

section Reads
variable {tree : FileTree} {working : List String} {path : Path} {text : String}

/-- A text that is not empty is read from a file, not from a device. -/
theorem read_eq_ok_iff (h : text ≠ "") :
    tree.read working path = .ok text ↔ tree.look working path = .ok (.file (some text)) := by
  unfold read
  constructor
  · intro hread
    split at hread
    case h_4 hlook => rw [hlook, Except.ok.inj hread]
    case h_5 => exact absurd (Except.ok.inj hread).symm h
    all_goals cases hread
  · intro hlook
    rw [hlook]

theorem read_eq_notFound_iff :
    tree.read working path = .error (.host .notFound) ↔ tree.look working path = .error .notFound := by
  unfold read
  constructor
  · intro hread
    split at hread
    case h_1 hlook => rw [hlook, ReadFault.host.inj (Except.error.inj hread)]
    all_goals cases hread
  · intro hlook
    rw [hlook]

end Reads

/-- Directories of the one tree stand in the other. -/
def Keeps (tree after : FileTree) : Prop :=
  ∀ place, tree.find? place = some .directory → after.find? place = some .directory

section Keeps
variable {tree after : FileTree} {working names : List String} {path : Path}

theorem keeps_put {node : TreeNode} (h : tree.find? names ≠ some .directory) :
    Keeps tree (tree.put names node) := by
  intro place hplace
  have other : place ≠ names := by
    rintro rfl
    exact h hplace
  rw [find?_put_of_ne other, hplace]

theorem step_eq_ok_iff {place next : List String} {name : String} : tree.step place name = .ok next ↔
    tree.find? place = some .directory ∧
      (if name = "." then .ok place
        else if name = ".." then .ok place.dropLast
        else if name.utf8ByteSize ≤ Path.maxNameSize then .ok (place ++ [name])
        else .error .nameTooLong) = Except.ok (ε := HostFault) next := by
  unfold step
  cases tree.find? place with
  | none => exact iff_of_false (fun h => nomatch h) (fun h => nomatch h.1)
  | some node =>
    cases node with
    | directory => exact (and_iff_right rfl).symm
    | _ => exact iff_of_false (fun h => nomatch h) (fun h => nomatch h.1)

theorem walk_of_keeps (h : Keeps tree after) {place target : List String}
    (hwalk : tree.walk place names = .ok target) : after.walk place names = .ok target := by
  induction names generalizing place with
  | nil => exact hwalk
  | cons name rest ih =>
    unfold walk at hwalk ⊢
    cases hstep : tree.step place name with
    | error fault =>
      rw [hstep] at hwalk
      cases hwalk
    | ok next =>
      rw [hstep] at hwalk
      have stands := step_eq_ok_iff.1 hstep
      have stepped : after.step place name = .ok next := step_eq_ok_iff.2 ⟨h _ stands.1, stands.2⟩
      simp only [stepped]
      exact ih hwalk

theorem locate_of_keeps (h : Keeps tree after) {place : List String}
    (hlocate : tree.locate working path = .ok place) : after.locate working path = .ok place := by
  unfold locate at hlocate ⊢
  split at hlocate
  · next size =>
    rw [if_pos size]
    exact walk_of_keeps h hlocate
  · cases hlocate

theorem exists_locate_of_look {node : TreeNode} (h : tree.look working path = .ok node) :
    ∃ place, tree.locate working path = .ok place ∧ tree.find? place = some node := by
  unfold look at h
  cases hlocate : tree.locate working path with
  | error fault =>
    rw [hlocate] at h
    cases h
  | ok place =>
    simp only [hlocate] at h
    refine ⟨place, rfl, ?_⟩
    split at h
    · cases h
    · next found => rw [found, Except.ok.inj h]
    · next found =>
      split at h
      · cases h
      · rw [found, Except.ok.inj h]

theorem look_eq_file {place : List String} {content : Option String} (hlocate : tree.locate working path = .ok place)
    (hplain : path.needsDirectory = false) (hfind : tree.find? place = some (.file content)) :
    tree.look working path = .ok (.file content) := by
  simp only [look, hlocate, hfind, hplain]
  rfl

/-- What stands at the end of a path is seen again if nothing changed at its place. -/
theorem look_of_keeps (h : Keeps tree after) {node : TreeNode} (hlook : tree.look working path = .ok node)
    (same : ∀ place, tree.locate working path = .ok place → after.find? place = tree.find? place) :
    after.look working path = .ok node := by
  obtain ⟨place, hlocate, _⟩ := exists_locate_of_look hlook
  have there := locate_of_keeps h hlocate
  have equal : after.look working path = tree.look working path := by
    simp only [look, hlocate, there, same place hlocate]
  rw [equal, hlook]

end Keeps

/-- The one tree is the other with directories at some of the paths, where nothing stood. -/
def Grows (working : List String) (paths : List Path) (tree after : FileTree) : Prop :=
  ∀ place, after.find? place ≠ tree.find? place →
    tree.find? place = none ∧ after.find? place = some .directory ∧
      ∃ path ∈ paths, after.locate working path = .ok place

section Grows
variable {tree middle after : FileTree} {working : List String} {paths others : List Path} {path : Path}

theorem Grows.refl : Grows working paths tree tree := fun _ h => absurd rfl h

theorem Grows.find?_eq (h : Grows working paths tree after) {place : List String} {node : TreeNode}
    (hfind : tree.find? place = some node) : after.find? place = some node := by
  by_contra changed
  rw [← hfind] at changed
  have none := (h place changed).1
  rw [hfind] at none
  cases none

theorem Grows.keeps (h : Grows working paths tree after) : Keeps tree after := fun _ => h.find?_eq

theorem Grows.mono (h : Grows working paths tree after) (hsub : paths ⊆ others) :
    Grows working others tree after := by
  intro place changed
  obtain ⟨absent, made, path, hpath, hlocate⟩ := h place changed
  exact ⟨absent, made, path, hsub hpath, hlocate⟩

theorem Grows.trans (h : Grows working paths tree middle) (h' : Grows working paths middle after) :
    Grows working paths tree after := by
  intro place changed
  by_cases later : after.find? place = middle.find? place
  · rw [later] at changed ⊢
    obtain ⟨absent, made, path, hpath, hlocate⟩ := h place changed
    exact ⟨absent, made, path, hpath, locate_of_keeps h'.keeps hlocate⟩
  · obtain ⟨absent, made, found⟩ := h' place later
    refine ⟨?_, made, found⟩
    by_contra stood
    obtain ⟨node, hnode⟩ := Option.ne_none_iff_exists'.1 stood
    rw [h.find?_eq hnode] at absent
    cases absent

theorem grows_makeDirectory (h : tree.makeDirectory working path = .ok after) :
    Grows working [path] tree after := by
  unfold makeDirectory at h
  cases hlocate : tree.locate working path with
  | error fault =>
    rw [hlocate] at h
    cases h
  | ok names =>
    rw [hlocate] at h
    cases hfind : tree.find? names with
    | some node =>
      simp only [hfind] at h
      cases h
    | none =>
      simp only [hfind] at h
      obtain rfl := Except.ok.inj h
      have inside : names ≠ [] := by
        rintro rfl
        cases hfind
      have keeps : Keeps tree (tree.put names .directory) := keeps_put (by rw [hfind]; exact fun h => nomatch h)
      intro place changed
      by_cases hplace : place = names
      · subst hplace
        exact ⟨hfind, find?_put_self inside, path, List.mem_singleton_self _, locate_of_keeps keeps hlocate⟩
      · exact absurd (find?_put_of_ne hplace) changed

theorem eq_of_orStanding {fault : HostFault} (h : tree.orStanding working path fault = .ok after) :
    after = tree := by
  unfold orStanding at h
  split at h
  · exact (Except.ok.inj h).symm
  · cases h

/-- The innermost directory is made first if it can be, else after those around it. -/
theorem grows_makeDirectories (h : tree.makeDirectories working paths = .ok after) :
    Grows working paths tree after := by
  induction paths generalizing after with
  | nil =>
    obtain rfl := Except.ok.inj h
    exact .refl
  | cons path outer ih =>
    have one : [path] ⊆ path :: outer := List.cons_subset_cons _ (List.nil_subset _)
    unfold makeDirectories at h
    split at h
    · next made hmade =>
      obtain rfl := Except.ok.inj h
      exact (grows_makeDirectory hmade).mono one
    · split at h
      · cases h
      · next around haround =>
        have grown := (ih haround).mono (List.subset_cons_self path outer)
        split at h
        · next made hmade =>
          obtain rfl := Except.ok.inj h
          exact grown.trans ((grows_makeDirectory hmade).mono one)
        · exact eq_of_orStanding h ▸ grown
    · exact eq_of_orStanding h ▸ .refl

end Grows

/-- A text goes to a device, or to a file that is put at its place. -/
inductive Written (tree : FileTree) (names : List String) (text : String) : FileTree → Prop
  | device {device : Device} (h : tree.find? names = some (.device device)) : Written tree names text tree
  | file (h : tree.find? names = none ∨ ∃ content, tree.find? names = some (.file content)) :
      Written tree names text (tree.put names (.file (some text)))

section Written
variable {tree after : FileTree} {working names : List String} {path : Path} {text : String}

theorem exists_written (h : tree.write working path text = .ok after) :
    path.needsDirectory = false ∧ ∃ names, tree.locate working path = .ok names ∧ Written tree names text after := by
  unfold write at h
  cases hlocate : tree.locate working path with
  | error fault =>
    rw [hlocate] at h
    cases h
  | ok names =>
    simp only [hlocate] at h
    split at h
    · cases h
    · next plain =>
      refine ⟨by simpa using plain, names, rfl, ?_⟩
      split at h
      · cases h
      · next found =>
        split at h
        · exact Except.ok.inj h ▸ .device found
        · cases h
      · next found => exact Except.ok.inj h ▸ .device found
      · next noDirectory noFull noDevice =>
        refine Except.ok.inj h ▸ .file ?_
        cases hfind : tree.find? names with
        | none => exact .inl rfl
        | some node =>
          cases node with
          | file content => exact .inr ⟨content, rfl⟩
          | directory => exact absurd hfind noDirectory
          | device device => exact absurd hfind (noDevice device)

theorem Written.keeps (h : Written tree names text after) : Keeps tree after := by
  cases h with
  | device h => exact fun _ h => h
  | file h =>
    refine keeps_put ?_
    rcases h with h | ⟨content, h⟩
    · rw [h]
      exact fun h => nomatch h
    · rw [h]
      exact fun h => nomatch h

theorem Written.ne_nil (h : Written tree names text after) : names ≠ [] := by
  rintro rfl
  cases h with
  | device h => cases h
  | file h =>
    rcases h with h | ⟨content, h⟩
    · cases h
    · cases h

/-- Only the place of the file changes, and it has the text then. -/
theorem Written.find?_eq (h : Written tree names text after) {place : List String}
    (changed : after.find? place ≠ tree.find? place) : place = names ∧ after.find? place = some (.file (some text)) := by
  have inside := h.ne_nil
  cases h with
  | device h => exact absurd rfl changed
  | file h =>
    have here : place = names := by
      by_contra other
      exact changed (find?_put_of_ne other)
    subst here
    exact ⟨rfl, find?_put_self inside⟩

end Written
end RecordAccess.FileTree
