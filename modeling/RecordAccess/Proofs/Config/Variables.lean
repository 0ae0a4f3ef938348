import Mathlib.Data.Bool.AllAny
import Mathlib.Data.List.Chain
import RecordAccess.Proofs.Config.Keys
import RecordAccess.Proofs.Text.Trimming

/-!
# Variables that spell a key

A variable whose name is the start and then the name of a key, letter case aside, gives its content to that key.
There is nothing in such a name that trimming takes away or that leads into a map.
-/
namespace RecordAccess.Config

/-- The characters of which the names of keys are made. -/
def keyLetters : List Char := "abcdefghijklmnopqrstuvwxyz_".toList

def Folds (first second : List Char) : Prop := first.map Char.toUpper = second.map Char.toUpper

/-- The variable has the name of a key after the start, in whatever case. -/
def Variable.Spells (var : Variable) (key : Key) : Prop :=
  Folds var.name.toList (variableStart.toList ++ key.name.toList)

section Letters
variable {c d : Char}

-- The test runs over the list: left to itself, `decide` may run over the whole of `Char`, which is finite.
theorem forall_letters {p : Char → Prop} [DecidablePred p] {s : List Char} (h : s.all fun letter => p letter) :
    ∀ letter ∈ s, p letter :=
  List.all_iff_forall_prop.1 h

theorem toNat_lt_of_toUpper_eq (hd : d ∈ keyLetters) (h : c.toUpper = d.toUpper) : c.toNat < 128 := by
  have ascii : ∀ letter ∈ keyLetters, letter.toUpper.toNat < 128 := forall_letters (by decide)
  have upper := ascii d hd
  rw [← h] at upper
  unfold Char.toUpper at upper
  split at upper
  · next isLower => exact lt_of_le_of_lt (UInt32.le_iff_toNat_le.1 isLower.2) (by decide)
  · exact upper

/-- Only a letter and its other case are the same, letter case aside. -/
theorem eq_or_eq_of_toUpper_eq (hd : d ∈ keyLetters) (h : c.toUpper = d.toUpper) :
    c = d ∨ c = d.toUpper := by
  have table : ∀ n < 128, keyLetters.all fun letter => (Char.ofNat n).toUpper = letter.toUpper →
      Char.ofNat n = letter ∨ Char.ofNat n = letter.toUpper := by
    decide +kernel
  have same := forall_letters (table c.toNat (toNat_lt_of_toUpper_eq hd h)) d hd
  rw [Char.ofNat_toNat] at same
  exact same h

theorem toLower_eq_of_toUpper_eq (hd : d ∈ keyLetters) (h : c.toUpper = d.toUpper) : c.toLower = d := by
  have lower : ∀ letter ∈ keyLetters, letter.toLower = letter ∧ letter.toUpper.toLower = letter :=
    forall_letters (by decide)
  rcases eq_or_eq_of_toUpper_eq hd h with rfl | rfl
  · exact (lower _ hd).1
  · exact (lower _ hd).2

end Letters

section Words
variable {s word : List Char}

/-- No two of them stand next to each other. -/
def Apart : List Char → Prop := List.IsChain fun first second => ¬(first = '_' ∧ second = '_')

instance : DecidablePred Apart := fun s => inferInstanceAs (Decidable (List.IsChain _ s))

theorem Folds.exists_letter (h : Folds s word) (hword : ∀ d ∈ word, d ∈ keyLetters) {c : Char} (hc : c ∈ s) :
    ∃ d ∈ keyLetters, c.toUpper = d.toUpper := by
  have upper : c.toUpper ∈ word.map Char.toUpper := h ▸ List.mem_map_of_mem hc
  obtain ⟨d, hd, same⟩ := List.mem_map.1 upper
  exact ⟨d, hword d hd, same.symm⟩

theorem Folds.trim_eq (h : Folds s word) (hword : ∀ d ∈ word, d ∈ keyLetters) : Text.trim s = s := by
  have solid : ∀ c ∈ s, Text.isBlank c = false := by
    intro c hc
    have letters : ∀ letter ∈ keyLetters, Text.isBlank letter = false ∧ Text.isBlank letter.toUpper = false :=
      forall_letters (by decide)
    obtain ⟨d, hd, same⟩ := h.exists_letter hword hc
    rcases eq_or_eq_of_toUpper_eq hd same with rfl | rfl
    · exact (letters _ hd).1
    · exact (letters _ hd).2
  exact Text.trim_eq_self (fun c hc => solid c (List.mem_of_mem_head? hc))
    (fun c hc => solid c (List.mem_of_getLast? hc))

theorem Folds.map_toLower (h : Folds s word) (hword : ∀ d ∈ word, d ∈ keyLetters) :
    s.map Char.toLower = word := by
  induction s generalizing word with
  | nil => exact (List.map_eq_nil_iff.1 h.symm).symm
  | cons c rest ih =>
    obtain ⟨d, others, rfl, same, folds⟩ := List.map_eq_cons_iff.1 h.symm
    rw [List.map_cons, toLower_eq_of_toUpper_eq (hword d List.mem_cons_self) same.symm,
      ih folds.symm fun letter hletter => hword letter (List.mem_cons_of_mem _ hletter)]

theorem dotted_eq_self (h : Apart s) : dotted s = s := by
  fun_induction dotted s with
  | case1 rest => exact absurd ⟨rfl, rfl⟩ (List.isChain_cons_cons.1 h).1
  | case2 c rest _ ih => rw [ih (List.isChain_cons.1 h).2]
  | case3 => rfl

end Words

/-- The names of keys are made of letters and of underscores that stand alone. -/
theorem Key.name_letters (key : Key) :
    key.name.toList ≠ [] ∧ Apart key.name.toList ∧ ∀ d ∈ key.name.toList, d ∈ keyLetters := by
  cases key <;> exact ⟨by decide, by decide, forall_letters (by decide)⟩

/-- Two underscores are not next to each other in other letter case either. -/
theorem Folds.apart {s word : List Char} (h : Folds s word) (hword : ∀ d ∈ word, d ∈ keyLetters)
    (hapart : Apart word) : Apart s := by
  have lower := h.map_toLower hword
  have folded : Apart (s.map Char.toLower) := lower ▸ hapart
  rw [Apart, List.isChain_map] at folded
  refine folded.imp ?_
  rintro first second notBoth ⟨rfl, rfl⟩
  exact notBoth (by decide)

theorem Variable.path_of_spells {var : Variable} {key : Key} (h : var.Spells key) :
    var.path = some [key.name] := by
  obtain ⟨nonempty, apart, letters⟩ := key.name_letters
  have lowerStart : variableStart.toList.map Char.toUpper = "crudgen_".toList.map Char.toUpper := by decide
  have spelled := h
  rw [Variable.Spells, Folds, List.map_append] at spelled
  obtain ⟨start, rest, hname, hstart, hrest⟩ := List.map_eq_append_iff.1 spelled
  have startFolds : Folds start variableStart.toList := hstart
  have restFolds : Folds rest key.name.toList := hrest
  have allFolds : Folds (start ++ rest) ("crudgen_".toList ++ key.name.toList) := by
    rw [Folds, List.map_append, List.map_append, hstart, hrest, lowerStart]
  have allLetters : ∀ d ∈ "crudgen_".toList ++ key.name.toList, d ∈ keyLetters := by
    intro d hd
    rcases List.mem_append.1 hd with hd | hd
    · exact forall_letters (by decide) d hd
    · exact letters d hd
  have size : start.length = variableStart.toList.length := by
    simpa using congrArg List.length hstart
  have undotted : '.' ∉ rest := by
    intro hdot
    obtain ⟨d, hd, same⟩ := restFolds.exists_letter letters hdot
    have undottedLetters : ∀ letter ∈ keyLetters, '.'.toUpper ≠ letter.toUpper := forall_letters (by decide)
    exact undottedLetters d hd same
  have filled : rest ≠ [] := by
    rintro rfl
    exact nonempty (List.map_eq_nil_iff.1 restFolds.symm)
  unfold Variable.path
  simp only [hname, allFolds.trim_eq allLetters]
  rw [← size, List.take_left, List.drop_left, if_pos (hstart.trans (by decide)), restFolds.trim_eq letters,
    dotted_eq_self (restFolds.apart letters apart), List.splitOn_eq_singleton undotted]
  rw [if_neg (by simpa using filled), List.map_singleton, restFolds.map_toLower letters, String.ofList_toList]

theorem Variable.entry_of_spells {var : Variable} {key : Key} (h : var.Spells key) :
    var.entry = some (key.name, var.content) := by
  rw [Variable.entry, Variable.path_of_spells h]
  rfl

end RecordAccess.Config
