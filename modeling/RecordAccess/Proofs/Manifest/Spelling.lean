import RecordAccess.Manifest
import RecordAccess.Proofs.Json.Structures

/-!
# Manifests are read in every spelling

A manifest has many texts: the members of its structures in any order or in a row, those with a default left
out, keys of no member in between, and every string with any of its characters escaped. All of them are read
as the manifest, and the text that is written is one of them.
-/
namespace RecordAccess

open Json

/-- The members of a field. A column or a tag that is absent may be left out. -/
def FieldSpec.members : List (Member FieldSpec) := [
  member "name" FieldSpec.name (fun name spec => { spec with name }) StringText fun _ => False,
  member "type" FieldSpec.type (fun type spec => { spec with type }) StringText fun _ => False,
  member "column" FieldSpec.column (fun column spec => { spec with column }) OptionalText (· = none),
  member "tag" FieldSpec.tag (fun tag spec => { spec with tag }) OptionalText (· = none)]

/-- The members of a type. The kind may be left out if it is that of a record. -/
def RecordEntry.members : List (Member RecordEntry) := [
  member "name" RecordEntry.name (fun name entry => { entry with name }) StringText fun _ => False,
  member "kind" RecordEntry.kind (fun kind entry => { entry with kind }) StringText (· = "struct"),
  member "fields" RecordEntry.fields (fun fields entry => { entry with fields })
    (ListText (StructureText FieldSpec.members)) (· = [])]

/-- The members of a manifest. -/
def Manifest.members : List (Member Manifest) := [
  member "package" Manifest.package (fun package manifest => { manifest with package }) StringText
    fun _ => False,
  member "declarations" Manifest.declarations (fun declarations manifest => { manifest with declarations })
    (ListText StringText) (· = []),
  member "records" Manifest.records (fun records manifest => { manifest with records })
    (ListText (StructureText RecordEntry.members)) (· = [])]

def Manifest.Spelled (manifest : Manifest) (text : String) : Prop :=
  ∃ before value after, Gap before ∧ Gap after ∧ StructureText members manifest value ∧
    text.toList = before ++ (value ++ after)

section Reading

theorem takes_fieldSpec : FieldSpec.layout.Takes FieldSpec.members where
  slots := by
    refine .cons ?_ (.cons ?_ (.cons ?_ (.cons ?_ .nil)))
    · exact takes_member (fun _ _ => reads_text) (by simp)
    · exact takes_member (fun _ _ => reads_text) (by simp)
    · exact takes_member (fun _ _ => reads_optional) (by simp)
    · exact takes_member (fun _ _ => reads_optional) (by simp)
  keys_nodup := by decide
  copy_comm := by simp [FieldSpec.members, member]
  copy_all _ := rfl
  copy_omissible value := by simp [FieldSpec.members, member, FieldSpec.layout]

theorem takes_recordEntry : RecordEntry.layout.Takes RecordEntry.members where
  slots := by
    refine .cons ?_ (.cons ?_ (.cons ?_ .nil))
    · exact takes_member (fun _ _ => reads_text) (by simp)
    · exact takes_member (fun _ _ => reads_text) (by simp)
    · exact takes_member (fun _ _ => reads_list (reads_structure takes_fieldSpec)) (by simp)
  keys_nodup := by decide
  copy_comm := by simp [RecordEntry.members, member]
  copy_all _ := rfl
  copy_omissible value := by simp [RecordEntry.members, member, RecordEntry.layout]

theorem takes_manifest : Manifest.layout.Takes Manifest.members where
  slots := by
    refine .cons ?_ (.cons ?_ (.cons ?_ .nil))
    · exact takes_member (fun _ _ => reads_text) (by simp)
    · exact takes_member (fun _ _ => reads_list fun _ _ => reads_text) (by simp)
    · exact takes_member (fun _ _ => reads_list (reads_structure takes_recordEntry)) (by simp)
  keys_nodup := by decide
  copy_comm := by simp [Manifest.members, member]
  copy_all _ := rfl
  copy_omissible value := by simp [Manifest.members, member, Manifest.layout]

theorem Manifest.Spelled.parse_eq {manifest : Manifest} {text : String} (h : manifest.Spelled text) :
    Manifest.parse text = .ok manifest := by
  obtain ⟨before, value, after, hbefore, hafter, hvalue, htext⟩ := h
  have read := (reads_structure takes_manifest manifest value hvalue).run_append before after hbefore
  have closed : skipGap after = [] := by
    have := hafter.skipGap_append []
    rwa [List.append_nil] at this
  change Manifest.layout.read _ = _ at read
  simp only [Manifest.parse, readWhole?, htext, read, closed]

end Reading

section Writing

theorem hexDigit_hexDigit {n : Nat} (h : n < 16) : HexDigit (hexDigit n) n := by
  have table : ∀ n < 16, "0123456789abcdef".toList[n]? = some (hexDigit n) := by decide
  exact .inl (table n h)

theorem unitText_of_lt {n : Nat} (h : n < 0x20) :
    UnitText n ['0', '0', hexDigit (n / 16), hexDigit (n % 16)] := by
  have zero : HexDigit '0' 0 := .inl rfl
  have high : HexDigit (hexDigit (n / 16)) (n / 16) := hexDigit_hexDigit (by omega)
  have low : HexDigit (hexDigit (n % 16)) (n % 16) := hexDigit_hexDigit (by omega)
  have number : 0 * 0x1000 + 0 * 0x100 + n / 16 * 0x10 + n % 16 = n := by omega
  have unit := UnitText.digits zero zero high low
  rwa [number] at unit

theorem charText_writtenChar (c : Char) : CharText c (writtenChar c) := by
  unfold writtenChar
  split
  · exact .short (by decide)
  · exact .short (by decide)
  · exact .short (by decide)
  · exact .short (by decide)
  · exact .short (by decide)
  · exact .short (by decide)
  · exact .short (by decide)
  · next quote backslash _ _ _ _ _ =>
    split_ifs with control
    · exact .unit (unitText_of_lt (by simpa [isControl] using control))
    · refine .plain ⟨?_, quote, backslash⟩
      simpa [isControl] using control

theorem bodyText_writtenChar (chars : List Char) : BodyText chars (chars.flatMap writtenChar) := by
  induction chars with
  | nil => exact .nil
  | cons c chars ih => exact .cons (charText_writtenChar c) ih

theorem stringText_writeString (s : String) : StringText s (writeString s) :=
  .quoted (bodyText_writtenChar s.toList)

theorem optionalText_write {s : String} : OptionalText (some s) (writeString s) :=
  .some (stringText_writeString s)

theorem continued_flatMap (parts : List (List Char)) :
    Continued parts (parts.flatMap fun part => ',' :: part) := by
  induction parts with
  | nil => exact .nil gap_nil
  | cons part parts ih => simpa using Continued.cons gap_nil gap_nil ih

theorem flatten_intersperse_cons (part : List Char) (parts : List (List Char)) :
    (List.intersperse [','] (part :: parts)).flatten = part ++ parts.flatMap fun part => ',' :: part := by
  induction parts generalizing part with
  | nil => simp
  | cons next parts ih => simp [ih]

/-- Items with commas between them and no gaps are a row. -/
theorem joined_intersperse (parts : List (List Char)) :
    Joined parts (List.intersperse [','] parts).flatten := by
  cases parts with
  | nil => exact .nil gap_nil
  | cons part parts =>
    rw [flatten_intersperse_cons]
    exact .cons gap_nil (continued_flatMap parts)

theorem listText_writeArray {α : Type} {spell : α → List Char → Prop} {write : α → List Char}
    (h : ∀ value, spell value (write value)) (values : List α) :
    ListText spell values (writeArray (values.map write)) := by
  have parts : List.Forall₂ spell values (values.map write) := by
    rw [List.forall₂_map_right_iff, List.forall₂_same]
    exact fun value _ => h value
  exact .array parts (joined_intersperse _)

theorem structureText_writeObject {σ : Type} {members : List (Member σ)} {value : σ}
    {entries : List (String × List Char)} (h : Fits members value entries) :
    StructureText members value (writeObject entries) := by
  have parts : List.Forall₂ EntryText entries
      (entries.map fun entry => writeString entry.1 ++ ':' :: entry.2) := by
    rw [List.forall₂_map_right_iff, List.forall₂_same]
    intro entry _
    refine ⟨_, stringText_writeString entry.1, ?_⟩
    simpa using MemberText.colon gap_nil gap_nil
  exact .inl (.object h parts (joined_intersperse _))

theorem structureText_fieldSpec (spec : FieldSpec) : StructureText FieldSpec.members spec spec.write := by
  obtain ⟨name, type, column, tag⟩ := spec
  refine structureText_writeObject ⟨?_, ?_, ?_, ?_⟩
  · cases column <;> cases tag <;>
      simp [FieldSpec.members, member, writtenIfSome, stringText_writeString, optionalText_write]
  · cases column <;> cases tag <;> simp [FieldSpec.members, member, writtenIfSome]
  · cases column <;> cases tag <;> simp [FieldSpec.members, member, writtenIfSome]
  · cases column <;> cases tag <;> simp [FieldSpec.members, member, writtenIfSome]

theorem structureText_recordEntry (entry : RecordEntry) :
    StructureText RecordEntry.members entry entry.write := by
  refine structureText_writeObject ⟨?_, ?_, ?_, ?_⟩
  · simp [RecordEntry.members, member, stringText_writeString, listText_writeArray structureText_fieldSpec]
  · simp [RecordEntry.members, member]
  · simp [RecordEntry.members, member]
  · simp [RecordEntry.members, member]

theorem structureText_manifest (manifest : Manifest) :
    StructureText Manifest.members manifest manifest.write := by
  refine structureText_writeObject ⟨?_, ?_, ?_, ?_⟩
  · simp [Manifest.members, member, stringText_writeString, listText_writeArray stringText_writeString,
      listText_writeArray structureText_recordEntry]
  · simp [Manifest.members, member]
  · simp [Manifest.members, member]
  · simp [Manifest.members, member]

theorem Manifest.spelled_print (manifest : Manifest) : manifest.Spelled manifest.print := by
  refine ⟨[], manifest.write, [], gap_nil, gap_nil, structureText_manifest manifest, ?_⟩
  simp [Manifest.print]

end Writing

/-- Reading undoes writing, and it undoes every other spelling of a manifest as well. -/
theorem Manifest.parse_spelled :
    (∀ manifest : Manifest, Manifest.parse manifest.print = .ok manifest) ∧
    ∀ (manifest : Manifest) (text : String), manifest.Spelled text → Manifest.parse text = .ok manifest :=
  ⟨fun manifest => manifest.spelled_print.parse_eq, fun _ _ h => h.parse_eq⟩

/-- The package comes last, a letter of its name is escaped, a key of no member comes first, the record is a row
that ends after its name, and the declarations are left out. -/
theorem Manifest.parse_spelled_reordered :
    let notes : Manifest := { package := "notes", records := [{ name := "Note" }] }
    let text := "\x7b\"x\": [],\n\"records\":[[\"Note\"]],\"package\":\"n\\u006ftes\"\x7d"
    notes.Spelled text ∧ Manifest.parse text = .ok notes := by
  intro notes text
  let package : List Char := ['"', 'n', '\\', 'u', '0', '0', '6', 'f', 't', 'e', 's', '"']
  let note : List Char := '[' :: writeString "Note" ++ [']']
  let entries : List (String × List Char) :=
    [("x", ['[', ']']), ("records", '[' :: note ++ [']']), ("package", package)]
  have row (part : List Char) : Joined [part] part := by
    simpa using Joined.cons gap_nil (Continued.nil gap_nil)
  have hpackage : StringText "notes" package := by
    have digits : UnitText (0 * 0x1000 + 0 * 0x100 + 6 * 0x10 + 15) ['0', '0', '6', 'f'] :=
      .digits (.inl rfl) (.inl rfl) (.inl rfl) (.inl rfl)
    have letter : CharText 'o' ['\\', 'u', '0', '0', '6', 'f'] := .unit digits
    have rest : BodyText ['t', 'e', 's'] ['t', 'e', 's'] :=
      .cons (.plain (by decide)) (.cons (.plain (by decide)) (.cons (.plain (by decide)) .nil))
    have body : BodyText "notes".toList ['n', '\\', 'u', '0', '0', '6', 'f', 't', 'e', 's'] :=
      .cons (.plain (by decide)) (.cons letter rest)
    exact .quoted body
  have hnote : StructureText RecordEntry.members { name := "Note" } note := by
    have split : RecordEntry.members = RecordEntry.members.take 1 ++ RecordEntry.members.drop 1 := rfl
    refine .inr (.row split ?_ ?_ (row _))
    · simp [RecordEntry.members, member]
    · exact .cons (stringText_writeString "Note") .nil
  have hrecords : ListText (StructureText RecordEntry.members) notes.records ('[' :: note ++ [']']) :=
    .array (.cons hnote .nil) (row note)
  have fits : Fits Manifest.members notes entries := by
    have empty : ValueText ['[', ']'] := @ValueText.array [] [] (by simp) (.nil gap_nil)
    refine ⟨?_, ?_, ?_, ?_⟩
    · simpa [entries, Manifest.members, member, hpackage, notes] using hrecords
    · simp [entries, Manifest.members, member, empty]
    · simp [entries, Manifest.members, member]
    · simp [entries, Manifest.members, member, notes]
  have gaps : Gap [' '] ∧ Gap ['\n'] := by decide
  have parts : List.Forall₂ EntryText entries [_, _, _] :=
    .cons ⟨_, stringText_writeString "x", .colon gap_nil gaps.1⟩
      (.cons ⟨_, stringText_writeString "records", .colon gap_nil gap_nil⟩
        (.cons ⟨_, stringText_writeString "package", .colon gap_nil gap_nil⟩ .nil))
  have joined (first second third : List Char) :
      Joined [first, second, third] (first ++ [',', '\n'] ++ second ++ [','] ++ third) := by
    have last : Continued [third] (',' :: third) := by
      simpa using Continued.cons gap_nil gap_nil (.nil gap_nil)
    simpa using Joined.cons gap_nil (Continued.cons gap_nil gaps.2 last)
  have spelled : notes.Spelled text :=
    ⟨[], _, [], gap_nil, gap_nil, .inl (.object fits parts (joined _ _ _)), by decide +kernel⟩
  exact ⟨spelled, parse_spelled.2 notes text spelled⟩

end RecordAccess
