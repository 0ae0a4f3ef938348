import RecordAccess.Description
import RecordAccess.Proofs.Manifest.Spelling
import RecordAccess.Proofs.Record.Repeats

/-!
# Compact texts and manifests are interchangeable

Compact texts describe a record, or they fail by the first text that describes no field, or else by the first name
that repeats. The manifest that lists the described fields leads to the same record, and generating from it comes
to the same, wherever a package is named.
-/
namespace RecordAccess

/-- The text describes the field. -/
def FieldSpec.Compact (text : String) (spec : FieldSpec) : Prop := parse text = .ok spec

theorem FieldSpec.parse_of_not_compact {text : String} (h : ¬∃ spec, Compact text spec) :
    parse text = .error (.invalidFieldSpec text) := by
  cases hparse : parse text with
  | ok spec => exact absurd ⟨spec, hparse⟩ h
  | error e =>
    unfold parse at hparse
    dsimp only at hparse
    split at hparse
    · exact hparse.symm
    · cases hparse

namespace Description
open FieldSpec

/-- What compact texts come to. -/
inductive Inlined (name : String) (texts : List String) : Except DescriptionError Description → Prop
  | misread {before after : List String} {text : String} (split : texts = before ++ text :: after)
      (earlier : ∀ known ∈ before, ∃ spec, Compact known spec) (h : ¬∃ spec, Compact text spec) :
      Inlined name texts (.error (.generation (.invalidFieldSpec text)))
  | repeated {specs : List FieldSpec} {before after : List String} {field : String}
      (compact : List.Forall₂ Compact texts specs)
      (split : specs.map FieldSpec.name = before ++ field :: after) (nodup : before.Nodup)
      (again : field ∈ before) :
      Inlined name texts (.error (.generation (.duplicateField (Text.trimmed name) field)))
  | described {specs : List FieldSpec} {record : Record} (compact : List.Forall₂ Compact texts specs)
      (name_eq : record.name = Text.trimmed name) (fields_eq : record.fields = specs.map Field.ofSpec) :
      Inlined name texts (.ok (.inline record))

section Texts
variable {name : String} {texts : List String} {specs : List FieldSpec}

theorem parseFields_of_compact (h : List.Forall₂ Compact texts specs) : parseFields texts = .ok specs := by
  induction h with
  | nil => rfl
  | cons first _ ih => simp only [parseFields, show parse _ = _ from first, ih]

theorem parseFields_of_misread {before after : List String} {text : String}
    (earlier : ∀ known ∈ before, ∃ spec, Compact known spec) (h : ¬∃ spec, Compact text spec) :
    parseFields (before ++ text :: after) = .error (.invalidFieldSpec text) := by
  induction before with
  | nil => simp only [List.nil_append, parseFields, parse_of_not_compact h]
  | cons known before ih =>
    obtain ⟨spec, hspec⟩ := earlier known List.mem_cons_self
    have rest := ih fun other hother => earlier other (List.mem_cons_of_mem _ hother)
    simp only [List.cons_append, parseFields, show parse known = _ from hspec, rest]

/-- Either all texts describe fields, or there is a first one that does not. -/
theorem compact_or_misread (texts : List String) :
    (∃ specs, List.Forall₂ Compact texts specs) ∨
      ∃ before text after, texts = before ++ text :: after ∧
        (∀ known ∈ before, ∃ spec, Compact known spec) ∧ ¬∃ spec, Compact text spec := by
  induction texts with
  | nil => exact .inl ⟨[], .nil⟩
  | cons text rest ih =>
    by_cases compact : ∃ spec, Compact text spec
    · obtain ⟨spec, hspec⟩ := compact
      rcases ih with ⟨specs, hspecs⟩ | ⟨before, bad, after, split, earlier, hbad⟩
      · exact .inl ⟨spec :: specs, .cons hspec hspecs⟩
      · refine .inr ⟨text :: before, bad, after, by rw [split, List.cons_append], ?_, hbad⟩
        intro known hknown
        rcases List.mem_cons.1 hknown with rfl | hknown
        · exact ⟨spec, hspec⟩
        · exact earlier known hknown
    · exact .inr ⟨[], text, rest, rfl, by simp, compact⟩

theorem inlineRecord_of_compact (h : List.Forall₂ Compact texts specs) :
    inlineRecord name texts = Record.ofSpecs (Text.trimmed name) specs := by
  rw [inlineRecord, parseFields_of_compact h]

theorem Inlined.ofFields_eq {outcome : Except DescriptionError Description} (given : texts ≠ [])
    (h : Inlined name texts outcome) : ofFields name texts = outcome := by
  have some : texts.isEmpty = false := by simpa using given
  simp only [ofFields, some, Bool.false_eq_true, if_false]
  cases h with
  | misread split earlier hbad =>
    rw [inlineRecord, split, parseFields_of_misread earlier hbad]
  | repeated compact split nodup again =>
    have repeats : Repeats [] (_ : List String) _ := ⟨_, _, split, nodup, by simp, .inl again⟩
    rw [inlineRecord_of_compact compact, Record.ofSpecs_of_repeats repeats]
  | described compact name_eq fields_eq =>
    rw [inlineRecord_of_compact compact, ← name_eq, Record.ofSpecs_of_fields_eq fields_eq]

theorem exists_inlined (name : String) (texts : List String) : ∃ outcome, Inlined name texts outcome := by
  rcases compact_or_misread texts with ⟨specs, compact⟩ | ⟨before, text, after, split, earlier, hbad⟩
  · cases hrepeat : firstRepeat [] (specs.map FieldSpec.name) with
    | none =>
      obtain ⟨record, _, hname, hfields⟩ :=
        @Record.exists_ofSpecs (Text.trimmed name) specs (firstRepeat_eq_none_iff.1 hrepeat)
      exact ⟨_, .described compact hname hfields⟩
    | some field =>
      obtain ⟨before, after, split, nodup, _, again⟩ := firstRepeat_eq_some_iff.1 hrepeat
      exact ⟨_, .repeated compact split nodup (again.resolve_right (by simp))⟩
  · exact ⟨_, .misread split earlier hbad⟩

theorem ofFields_eq_iff (given : texts ≠ []) (outcome : Except DescriptionError Description) :
    ofFields name texts = outcome ↔ Inlined name texts outcome := by
  constructor
  · rintro rfl
    obtain ⟨outcome, h⟩ := exists_inlined name texts
    rwa [h.ofFields_eq given]
  · exact fun h => h.ofFields_eq given

end Texts

/-- The manifest of a package that declares nothing and has one record. -/
def listing (package name : String) (specs : List FieldSpec) : Manifest :=
  { package, records := [{ name, fields := specs }] }

section Listing
variable {package name : String} {specs : List FieldSpec} {record : Record}

theorem lookup_listing : (listing package name specs).lookup name = Record.ofSpecs name specs := by
  have kind : RecordEntry.isStruct { name, fields := specs } = true := by
    change ("struct".toList.map Char.toLower == RecordEntry.structKind.toList) = true
    decide
  simp [Manifest.lookup, listing, kind]

/-- A manifest of one record and the record by itself come to the same, as its package is not asked for. -/
theorem generate_listing (h : Record.ofSpecs name specs = .ok record) {generator : Generator}
    (hpackage : generator.settings.package ≠ none) :
    (manifest (listing package name specs)).generate generator name = (inline record).generate generator name := by
  obtain ⟨chosen, hchosen⟩ := Option.ne_none_iff_exists'.1 hpackage
  have lookup : (listing package name specs).source.lookup name = .ok record := lookup_listing.trans h
  simp only [generate, hchosen, Generator.generateFrom, Generator.generateFromUnder, lookup, Generator.generate,
    Generator.generateUnder, Option.getD_some]
  rfl

end Listing

/-- Compact texts come to one outcome: the first text that describes no field fails, else the first name that
repeats does, else there is a record. A manifest that lists the described fields, in whatever spelling, leads to
that record, and to the same outcome of every run that has a package. -/
theorem inline_interchangeable {name : String} {texts : List String} (given : texts ≠ []) :
    (∀ outcome, ofFields name texts = outcome ↔ Inlined name texts outcome) ∧
    ∀ specs, List.Forall₂ Compact texts specs → (specs.map FieldSpec.name).Nodup →
      ∃ record, ofFields name texts = .ok (.inline record) ∧ ∀ package,
        let listed := listing package (Text.trimmed name) specs
        listed.Spelled listed.print ∧ ∀ text, listed.Spelled text →
          ∃ decoded, Manifest.parse text = .ok decoded ∧
            (manifest decoded).record (Text.trimmed name) = (inline record).record (Text.trimmed name) ∧
            ∀ generator : Generator, generator.settings.package ≠ none →
              (manifest decoded).generate generator (Text.trimmed name) =
                (inline record).generate generator (Text.trimmed name) := by
  refine ⟨ofFields_eq_iff given, ?_⟩
  intro specs compact nodup
  obtain ⟨record, hrecord, hname, hfields⟩ := @Record.exists_ofSpecs (Text.trimmed name) specs nodup
  refine ⟨record, (Inlined.described compact hname hfields).ofFields_eq given, ?_⟩
  intro package listed
  refine ⟨listed.spelled_print, ?_⟩
  intro text spelled
  exact ⟨listed, spelled.parse_eq, lookup_listing.trans hrecord, fun generator => generate_listing hrecord⟩

/-- Blanks around names and types, and a column that is left empty, show in no spelling of the manifest. The text
without a type is the first fault, though the name before it repeats. -/
theorem inline_interchangeable_padded :
    let texts := ["ID:int64:id", " Title : string :"]
    let specs : List FieldSpec := [⟨"ID", "int64", some "id", none⟩, ⟨"Title", "string", none, none⟩]
    let listed := listing "notes" (Text.trimmed " Note ") specs
    let generator : Generator := { settings := { package := some "records" } }
    (∃ record, ofFields " Note " texts = .ok (.inline record) ∧
      ∃ decoded, Manifest.parse listed.print = .ok decoded ∧
        (manifest decoded).record (Text.trimmed " Note ") = .ok record ∧
        (manifest decoded).generate generator (Text.trimmed " Note ") =
          (inline record).generate generator (Text.trimmed " Note ")) ∧
      ofFields " Note " ["ID:int64", "ID:string", "Title"] = .error (.generation (.invalidFieldSpec "Title")) := by
  intro texts specs listed generator
  have compact : List.Forall₂ Compact texts specs :=
    .cons (by rw [Compact]; decide +kernel) (.cons (by rw [Compact]; decide +kernel) .nil)
  obtain ⟨record, described, same⟩ :=
    (@inline_interchangeable " Note " texts (by decide)).2 _ compact (by decide)
  obtain ⟨spelled, decodes⟩ := same "notes"
  obtain ⟨decoded, parsed, records, sources⟩ := decodes _ spelled
  refine ⟨⟨record, described, decoded, parsed, records, sources generator (by simp [generator])⟩, ?_⟩
  refine ((@inline_interchangeable " Note " ["ID:int64", "ID:string", "Title"] (by decide)).1 _).2 ?_
  refine @Inlined.misread _ _ ["ID:int64", "ID:string"] [] _ rfl ?_ ?_
  · intro known hknown
    rcases List.mem_pair.1 hknown with rfl | rfl
    · exact ⟨⟨"ID", "int64", none, none⟩, by rw [Compact]; decide +kernel⟩
    · exact ⟨⟨"ID", "string", none, none⟩, by rw [Compact]; decide +kernel⟩
  · rintro ⟨spec, compact⟩
    have misread : parse "Title" = .error (.invalidFieldSpec "Title") := by decide +kernel
    rw [Compact, misread] at compact
    cases compact

end Description
end RecordAccess
