import Mathlib.Data.List.Forall2
import RecordAccess.Proofs.Template.Rendering

/-!
# Strict rendering

A template renders exactly if its context has every variable that the template places outside its conditional
part, and otherwise fails for the first one that is missing. The conditional part places the variable that it
depends on and no other, so it cannot fail.
-/
namespace RecordAccess.Template

/-- The first of the variables to which the context gives nothing. -/
def firstMissing (context : Context) (names : List String) : Option String :=
  names.find? fun name => (valueOf context name).isNone

/-- The variable is the first of them that is no key of the context. -/
def FirstMissing (context : Context) (names : List String) (name : String) : Prop :=
  name ∉ context.map Prod.fst ∧ ∃ before after, names = before ++ name :: after ∧
    ∀ known ∈ before, known ∈ context.map Prod.fst

/-- The variables that a template places outside its conditional parts, in order. -/
def unconditional (template : Template) : List String :=
  template.flatMap fun
    | .part value => value.variables
    | .shownIf _ _ => []

/-- A conditional part looks up no variable but that which it depends on. -/
def Piece.SelfReliant : Piece → Prop
  | .part _ => True
  | .shownIf name parts => ∀ other ∈ parts.flatMap Part.variables, other = name

instance : (piece : Piece) → Decidable (Piece.SelfReliant piece)
  | .part _ => inferInstanceAs (Decidable True)
  | .shownIf name parts => inferInstanceAs (Decidable (∀ other ∈ parts.flatMap Part.variables, other = name))

section Missing
variable {context : Context} {names more : List String}

theorem valueOf_eq_none_iff {name : String} : valueOf context name = none ↔ name ∉ context.map Prod.fst := by
  rw [valueOf, List.lookup_eq_none_iff, List.mem_map]
  constructor
  · rintro h ⟨pair, hpair, rfl⟩
    simpa using h pair hpair
  · intro h pair hpair
    simp only [bne_iff_ne, ne_eq]
    rintro rfl
    exact h ⟨pair, hpair, rfl⟩

theorem firstMissing_append : firstMissing context (names ++ more) =
    (firstMissing context names).or (firstMissing context more) :=
  List.find?_append

theorem firstMissing_eq_none_iff :
    firstMissing context names = none ↔ ∀ name ∈ names, name ∈ context.map Prod.fst := by
  simp only [firstMissing, List.find?_eq_none, Option.isNone_iff_eq_none, valueOf_eq_none_iff, not_not]

theorem firstMissing_eq_some_iff {name : String} :
    firstMissing context names = some name ↔ FirstMissing context names name := by
  simp only [firstMissing, FirstMissing, List.find?_eq_some_iff_append, Option.isNone_iff_eq_none, valueOf_eq_none_iff,
    Bool.not_eq_true', ← Bool.not_eq_true, not_not]

/-- It does not matter for the first missing variable that others come again. -/
theorem firstMissing_eraseDups (context : Context) (names : List String) :
    firstMissing context names.eraseDups = firstMissing context names := by
  match names with
  | [] => rfl
  | name :: rest =>
    have ih := firstMissing_eraseDups context (rest.filter fun other => !other == name)
    rw [List.eraseDups_cons, firstMissing, List.find?_cons, firstMissing, List.find?_cons]
    cases hname : (valueOf context name).isNone with
    | true => rfl
    | false =>
      refine ih.trans ?_
      -- The names that are left out are not missing.
      rw [firstMissing, List.find?_filter]
      congr 1
      funext other
      rw [Bool.eq_iff_iff, decide_eq_true_iff, and_iff_right_iff_imp]
      intro missing
      have other_ne : other ≠ name := by
        rintro rfl
        simp [hname] at missing
      simpa using other_ne
termination_by names.length
decreasing_by
  have := List.length_filter_le (fun other => !other == name) rest
  simp only [List.length_cons]
  omega

theorem renderParts_eq (context : Context) (parts : List Part) :
    match firstMissing context (parts.flatMap Part.variables) with
    | some name => renderParts context parts = .error (.missingVariable name)
    | none => ∃ text, renderParts context parts = .ok text := by
  induction parts with
  | nil => exact ⟨_, rfl⟩
  | cons part parts ih =>
    rw [List.flatMap_cons, firstMissing_append]
    cases part with
    | text literal =>
      rw [Part.variables, firstMissing, List.find?_nil, Option.none_or]
      cases hrest : firstMissing context (parts.flatMap Part.variables) with
      | some name =>
        rw [hrest] at ih
        simp only [renderParts, ih]
      | none =>
        rw [hrest] at ih
        obtain ⟨after, ih⟩ := ih
        exact ⟨literal ++ after, by simp only [renderParts, ih]⟩
    | hole name =>
      rw [Part.variables, firstMissing, List.find?_singleton]
      cases hvalue : valueOf context name with
      | none => simp only [Option.isNone_none, if_true, Option.some_or, renderParts, hvalue]
      | some value =>
        simp only [Option.isNone_some, Bool.false_eq_true, if_false, Option.none_or]
        cases hrest : firstMissing context (parts.flatMap Part.variables) with
        | some other =>
          rw [hrest] at ih
          simp only [renderParts, hvalue, ih]
        | none =>
          rw [hrest] at ih
          obtain ⟨after, ih⟩ := ih
          exact ⟨value.render ++ after, by simp only [renderParts, hvalue, ih]⟩

/-- Nothing is missing in a conditional part that shows. -/
theorem firstMissing_shownIf {name : String} {parts : List Part} (shown : isShown context name = true)
    (reliant : ∀ other ∈ parts.flatMap Part.variables, other = name) :
    firstMissing context (parts.flatMap Part.variables) = none := by
  rw [firstMissing, List.find?_eq_none]
  rintro other hother
  obtain rfl := reliant other hother
  rw [isShown] at shown
  cases hvalue : valueOf context other with
  | some value => simp
  | none => simp [hvalue] at shown

theorem firstMissing_shownParts {template : Template} (reliant : ∀ piece ∈ template, Piece.SelfReliant piece) :
    firstMissing context ((shownParts context template).flatMap Part.variables) =
      firstMissing context (unconditional template) := by
  induction template with
  | nil => rfl
  | cons piece template ih =>
    rw [List.forall_mem_cons] at reliant
    have ih := ih reliant.2
    cases piece with
    | part value =>
      have shown : shownParts context (.part value :: template) = value :: shownParts context template := rfl
      have outside : unconditional (.part value :: template) = value.variables ++ unconditional template := rfl
      rw [shown, outside, List.flatMap_cons, firstMissing_append, firstMissing_append, ih]
    | shownIf name parts =>
      have outside : unconditional (.shownIf name parts :: template) = unconditional template := rfl
      have shownParts_eq : shownParts context (.shownIf name parts :: template) =
        (if isShown context name then parts else []) ++ shownParts context template := rfl
      rw [outside, shownParts_eq, List.flatMap_append, firstMissing_append, ih]
      cases shown : isShown context name with
      | false => rfl
      | true => rw [if_pos rfl, firstMissing_shownIf shown reliant.1, Option.none_or]

end Missing

/-- The variables that the template of an operation places outside its conditional part, each at its first
place. -/
def placed : Operation → List String
  | .create | .get => ["suffix", "model", "query", "scan"]
  | .list => ["suffix", "model", "select", "filter_join", "scan"]
  | .update => ["suffix", "model", "query", "args", "scan"]
  | .delete => ["suffix", "query"]

section Operations
variable (operation : Operation)

theorem eraseDups_unconditional : (unconditional (ofOperation operation)).eraseDups = placed operation := by
  cases operation <;> rfl

theorem selfReliant_ofOperation : ∀ piece ∈ ofOperation operation, Piece.SelfReliant piece := by
  cases operation <;> decide

theorem variables_subset_variableNames :
    (ofOperation operation).flatMap Piece.variables ⊆ Fragment.variableNames operation := by
  cases operation <;> decide

theorem isName_of_mem_variableNames : ∀ name ∈ Fragment.variableNames operation, IsName name := by
  cases operation <;> decide +kernel

/-- No brace that ends a literal text or stands before another one is an opening one. -/
theorem exists_rows : ∃ rows, List.Forall₂ (fun part row => Source.Spelled [part] row)
    ((ofOperation operation).flatMap parts) rows ∧
      (rows.all fun row => !decide (Source.Mentions (row ++ [.char '{']) Mark.start)) = true := by
  cases operation <;> exact ⟨_, by repeat' constructor, by decide +kernel⟩

theorem plain_of_mem_parts : ∀ part ∈ (ofOperation operation).flatMap parts, part.Plain := by
  intro part hpart
  cases part with
  | hole name =>
    have hole : name ∈ holes (ofOperation operation) := List.mem_filterMap.2 ⟨_, hpart, rfl⟩
    exact isName_of_mem_variableNames operation name (Fragment.holes_subset_variableNames operation hole)
  | text literal =>
    obtain ⟨rows, spelled, apart⟩ := exists_rows operation
    have same : List.Forall₂ (· = ·) (((ofOperation operation).flatMap parts).map Source.symbols) rows := by
      refine List.forall₂_map_left_iff.2 (spelled.imp ?_)
      intro part row hrow
      rw [hrow.eq_symbols, List.flatMap_singleton]
    rw [List.forall₂_eq_eq_eq] at same
    have unmarked := List.all_eq_true.1 apart (Source.symbols (.text literal))
      (same ▸ List.mem_map_of_mem hpart)
    intro mark
    have symbolic := mark.map Source.Symbol.char
    rw [List.map_append] at symbolic
    rw [Bool.not_eq_true'] at unmarked
    exact of_decide_eq_false unmarked symbolic

theorem plain_ofOperation : ∀ piece ∈ ofOperation operation, piece.Plain := by
  intro piece hpiece
  have plain : ∀ part ∈ parts piece, part.Plain := fun part hpart =>
    plain_of_mem_parts operation part (List.mem_flatMap.2 ⟨piece, hpiece, hpart⟩)
  cases piece with
  | part value => exact plain value List.mem_cons_self
  | shownIf name parts =>
    have known : name ∈ Fragment.variableNames operation :=
      variables_subset_variableNames operation (List.mem_flatMap.2 ⟨_, hpiece, List.mem_cons_self⟩)
    exact ⟨isName_of_mem_variableNames operation name known, plain⟩

end Operations

/-- The template of an operation renders if the context has all the variables that it places outside its
conditional part, and fails for the first of them that is missing otherwise. If the context gives texts to the
variables, the text is what comes of the template's text. -/
theorem render_strict (operation : Operation) (context : Context) :
    named operation.name = .ok (ofOperation operation) ∧
    ((∃ text, (ofOperation operation).render context = .ok text) ↔
      ∀ name ∈ placed operation, name ∈ context.map Prod.fst) ∧
    (∀ e, (ofOperation operation).render context = .error e ↔
      ∃ name, FirstMissing context (placed operation) name ∧ e = .missingVariable name) ∧
    ((∀ name ∈ Fragment.variableNames operation, Textual context name) →
      ∀ text, (ofOperation operation).render context = .ok text ↔
        Fills (textOf context) .outside (source (ofOperation operation)) text.toList) := by
  have first := renderParts_eq context (shownParts context (ofOperation operation))
  rw [firstMissing_shownParts (selfReliant_ofOperation operation), ← firstMissing_eraseDups,
    eraseDups_unconditional] at first
  change match firstMissing context (placed operation) with
    | some name => (ofOperation operation).render context = .error (.missingVariable name)
    | none => ∃ text, (ofOperation operation).render context = .ok text at first
  refine ⟨?_, ?_, ?_, ?_⟩
  · cases operation <;> rfl
  · rw [← firstMissing_eq_none_iff]
    cases hfirst : firstMissing context (placed operation) with
    | none => simpa [hfirst] using first
    | some name =>
      rw [hfirst] at first
      simp [first]
  · intro e
    simp only [← firstMissing_eq_some_iff]
    cases hfirst : firstMissing context (placed operation) with
    | none =>
      rw [hfirst] at first
      obtain ⟨text, first⟩ := first
      simp [first]
    | some name =>
      rw [hfirst] at first
      simp [first, eq_comm]
  · intro textual text
    have textual : ∀ name ∈ (ofOperation operation).flatMap Piece.variables, Textual context name :=
      fun name hname => textual name (variables_subset_variableNames operation hname)
    rw [fills_source_iff (plain_ofOperation operation) textual]
    constructor
    · intro rendered
      exact ⟨text, rendered, rfl⟩
    · rintro ⟨other, rendered, same⟩
      rwa [String.toList_inj.1 same]

/-- A statement that looks like a hole is put down as it is. -/
theorem render_strict_braces :
    let context : Context := [("query", .text "\x7b\x7bsuffix\x7d\x7d"), ("suffix", .text "Note"), ("scan", .null)]
    (∀ name ∈ Fragment.variableNames .delete, Textual context name) ∧
      ∃ text, delete.render context = .ok text ∧
        Fills (textOf context) .outside (source delete) text.toList := by
  intro context
  have textual : ∀ name ∈ Fragment.variableNames .delete, Textual context name := by
    intro name hname value hvalue
    have given : name = "suffix" ∨ name = "query" := by simpa [Fragment.variableNames] using hname
    rcases given with rfl | rfl
    · exact ⟨"Note", (Option.some.inj hvalue).symm⟩
    · exact ⟨"\x7b\x7bsuffix\x7d\x7d", (Option.some.inj hvalue).symm⟩
  obtain ⟨_, renders, _, fills⟩ := render_strict .delete context
  obtain ⟨text, rendered⟩ := renders.2 (by decide)
  exact ⟨textual, text, rendered, (fills textual text).1 rendered⟩

end RecordAccess.Template
