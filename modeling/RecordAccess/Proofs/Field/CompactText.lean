import RecordAccess.Field.Spec
import RecordAccess.Proofs.Text.Characters

/-!
# Compact texts of fields

The first two colons part a compact text in three. The blanks around the parts count for nothing, nor does a last
part of blanks only. What a text says of a field is printed without them, and the printed text says the same.
-/
namespace RecordAccess.FieldSpec

open Text

/-- The texts before the first colon, from there to the second, and after that. -/
inductive Parted : List Char → List Char → List Char → List Char → Prop
  | one {name : List Char} (hname : ':' ∉ name) : Parted name name [] []
  | two {name type : List Char} (hname : ':' ∉ name) (htype : ':' ∉ type) :
      Parted (name ++ ':' :: type) name type []
  | three {name type : List Char} (hname : ':' ∉ name) (htype : ':' ∉ type) (column : List Char) :
      Parted (name ++ ':' :: (type ++ ':' :: column)) name type column

inductive Parsed (text : String) : Except GenerationError FieldSpec → Prop
  | misread {name type column : List Char} (parted : Parted text.toList name type column)
      (h : ¬(isIdentifier (trim name) ∧ trim type ≠ [])) : Parsed text (.error (.invalidFieldSpec text))
  | unnamed {name type column : List Char} (parted : Parted text.toList name type column)
      (identifier : isIdentifier (trim name)) (typed : trim type ≠ []) (blank : trim column = []) :
      Parsed text (.ok ⟨String.ofList (trim name), String.ofList (trim type), none, none⟩)
  | named {name type column : List Char} (parted : Parted text.toList name type column)
      (identifier : isIdentifier (trim name)) (typed : trim type ≠ []) (filled : trim column ≠ []) :
      Parsed text (.ok ⟨String.ofList (trim name), String.ofList (trim type), some (String.ofList (trim column)), none⟩)

section Parts
variable {s name type column : List Char}

theorem splitColon_of_not_mem (h : ':' ∉ s) : splitColon s = (s, none) := by
  have none : s.dropWhile (· != ':') = [] := by
    rw [List.dropWhile_eq_nil_iff]
    intro c hc
    exact bne_iff_ne.2 fun same => h (same ▸ hc)
  rw [splitColon, none]

theorem splitColon_append_cons (h : ':' ∉ name) (rest : List Char) :
    splitColon (name ++ ':' :: rest) = (name, some rest) := by
  have other : ∀ c ∈ name, (c != ':') = true := fun c hc => bne_iff_ne.2 fun same => h (same ▸ hc)
  have left : (name ++ ':' :: rest).dropWhile (· != ':') = ':' :: rest := by
    simp [List.dropWhile_append_of_pos other]
  have taken : (name ++ ':' :: rest).takeWhile (· != ':') = name := by
    simp [List.takeWhile_append_of_pos other]
  rw [splitColon, left, taken]

theorem exists_parted (s : List Char) : ∃ name type column, Parted s name type column := by
  by_cases first : ':' ∈ s
  · obtain ⟨name, rest, rfl, hname⟩ := List.eq_append_cons_of_mem first
    by_cases second : ':' ∈ rest
    · obtain ⟨type, column, rfl, htype⟩ := List.eq_append_cons_of_mem second
      exact ⟨name, type, column, .three hname htype column⟩
    · exact ⟨name, rest, [], .two hname second⟩
  · exact ⟨s, [], [], .one first⟩

theorem Parted.parts_eq (h : Parted s name type column) : parts s = (trim name, trim type, trim column) := by
  cases h with
  | one hname =>
    rw [parts, splitColon_of_not_mem hname]
    rfl
  | two hname htype =>
    simp only [parts, splitColon_append_cons hname, Option.getD_some, splitColon_of_not_mem htype, Option.getD_none]
  | three hname htype column =>
    simp only [parts, splitColon_append_cons hname, Option.getD_some, splitColon_append_cons htype]

theorem Parted.not_mem_type (h : Parted s name type column) : ':' ∉ type := by
  cases h with
  | one => exact List.not_mem_nil
  | two _ htype => exact htype
  | three _ htype => exact htype

end Parts

section Reading
variable {text : String} {outcome : Except GenerationError FieldSpec}

theorem Parsed.parse_eq (h : Parsed text outcome) : parse text = outcome := by
  cases h with
  | @misread name type _ parted h =>
    have bad : (!isIdentifier (trim name) || (trim type).isEmpty) = true := by simpa [imp_iff_not_or] using h
    simp only [parse, parted.parts_eq, bad, if_true]
  | unnamed parted identifier typed blank => simp [parse, parted.parts_eq, identifier, typed, blank]
  | named parted identifier typed filled => simp [parse, parted.parts_eq, identifier, typed, filled]

theorem exists_parsed (text : String) : ∃ outcome, Parsed text outcome := by
  obtain ⟨name, type, column, parted⟩ := exists_parted text.toList
  by_cases h : isIdentifier (trim name) ∧ trim type ≠ []
  · by_cases blank : trim column = []
    · exact ⟨_, .unnamed parted h.1 h.2 blank⟩
    · exact ⟨_, .named parted h.1 h.2 blank⟩
  · exact ⟨_, .misread parted h⟩

theorem parse_eq_iff : parse text = outcome ↔ Parsed text outcome := by
  constructor
  · rintro rfl
    obtain ⟨outcome, h⟩ := exists_parsed text
    rwa [h.parse_eq]
  · exact Parsed.parse_eq

end Reading

def print (spec : FieldSpec) : String :=
  match spec.column with
  | none => spec.name ++ ":" ++ spec.type
  | some column => spec.name ++ ":" ++ spec.type ++ ":" ++ column

structure Printable (spec : FieldSpec) : Prop where
  identifier : isIdentifier spec.name.toList
  typed : spec.type ≠ ""
  trimmed_type : trimmed spec.type = spec.type
  undivided : ':' ∉ spec.type.toList
  filled : ∀ column ∈ spec.column, column ≠ ""
  trimmed_column : ∀ column ∈ spec.column, trimmed column = column
  untagged : spec.tag = none

section Printing
variable {spec : FieldSpec}

theorem trimmed_ofList_trim (s : List Char) : trimmed (String.ofList (trim s)) = String.ofList (trim s) := by
  rw [trimmed, String.toList_ofList, trim_trim]

theorem Parted.printable {s name type rest : List Char} {column : Option String} (parted : Parted s name type rest)
    (identifier : isIdentifier (trim name)) (typed : trim type ≠ []) (filled : ∀ text ∈ column, text ≠ "")
    (trimmed_column : ∀ text ∈ column, trimmed text = text) :
    Printable ⟨String.ofList (trim name), String.ofList (trim type), column, none⟩ where
  identifier := by simpa using identifier
  typed := by simpa using typed
  trimmed_type := trimmed_ofList_trim type
  undivided := by simpa using not_mem_trim parted.not_mem_type
  filled := filled
  trimmed_column := trimmed_column
  untagged := rfl

theorem printable_of_parse {text : String} (h : parse text = .ok spec) : spec.Printable := by
  cases parse_eq_iff.1 h with
  | unnamed parted identifier typed blank => exact parted.printable identifier typed (by simp) (by simp)
  | named parted identifier typed filled =>
    exact parted.printable identifier typed (by simpa using filled) (by simp [trimmed_ofList_trim])

theorem Printable.parse_print (h : spec.Printable) : parse spec.print = .ok spec := by
  obtain ⟨name, type, column, tag⟩ := spec
  obtain ⟨identifier, typed, trimmed_type, undivided, filled, trimmed_column, untagged⟩ := h
  dsimp only at identifier typed trimmed_type undivided filled trimmed_column untagged
  subst untagged
  have name_eq : trim name.toList = name.toList := trim_of_isIdentifier identifier
  have type_eq : trim type.toList = type.toList := by rw [← toList_trimmed, trimmed_type]
  have hname : ':' ∉ name.toList := fun colon =>
    absurd (continuesIdentifier_of_mem identifier _ colon) (by decide)
  cases column with
  | none =>
    have parted : Parted (print ⟨name, type, none, none⟩).toList name.toList type.toList [] := by
      simpa [print] using Parted.two hname undivided
    have parsed := Parsed.unnamed parted (by rwa [name_eq]) (by simpa [type_eq] using typed) rfl
    simpa [name_eq, type_eq] using parsed.parse_eq
  | some column =>
    have column_eq : trim column.toList = column.toList := by rw [← toList_trimmed, trimmed_column column rfl]
    have parted : Parted (print ⟨name, type, some column, none⟩).toList name.toList type.toList column.toList := by
      simpa [print] using Parted.three hname undivided column.toList
    have parsed := Parsed.named parted (by rwa [name_eq]) (by simpa [type_eq] using typed)
      (by simpa [column_eq] using filled column rfl)
    simpa [name_eq, type_eq, column_eq] using parsed.parse_eq

end Printing

/-- The parts of a compact text settle what it comes to. What is read from it is read again from the compact form in
which it is printed, and so is every description of which that form says all. -/
theorem parse_prints_back :
    (∀ text outcome, parse text = outcome ↔ Parsed text outcome) ∧
    (∀ text spec, parse text = .ok spec → parse spec.print = .ok spec) ∧
    ∀ spec : FieldSpec, parse spec.print = .ok spec ↔ spec.Printable :=
  ⟨fun _ _ => parse_eq_iff, fun _ _ h => (printable_of_parse h).parse_print,
    fun _ => ⟨printable_of_parse, Printable.parse_print⟩⟩

/-- Colons after the second belong to the column, with the blanks between them. -/
theorem parse_prints_back_colons :
    let spec : FieldSpec := ⟨"Title", "[]string", some "a : b:", none⟩
    parse " Title :\t[]string: a : b: " = .ok spec ∧ spec.print = "Title:[]string:a : b:" ∧
      parse spec.print = .ok spec ∧ spec.Printable ∧
      parse "Title::title" = .error (.invalidFieldSpec "Title::title") := by
  intro spec
  have read : parse " Title :\t[]string: a : b: " = .ok spec := by decide +kernel
  have again := parse_prints_back.2.1 _ spec read
  have parted : Parted "Title::title".toList "Title".toList [] "title".toList :=
    @Parted.three "Title".toList [] (by decide) (by decide) _
  exact ⟨read, by decide +kernel, again, (parse_prints_back.2.2 spec).1 again,
    (parse_prints_back.1 _ _).2 (.misread parted (by simp))⟩

end RecordAccess.FieldSpec
