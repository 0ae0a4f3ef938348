import RecordAccess.Fragment

/-!
# Filled templates

A template whose variables all have a text renders, and its text is that of its parts with the texts
in place of the holes. The templates of the operations have no variable that their context lacks, so
every operation renders for all roles.
-/
namespace RecordAccess

/-- The text of a part when variables have the given texts. -/
def Part.filled (value : String → String) : Part → String
  | text literal => literal
  | hole name => value name

namespace Template

theorem renderParts_eq_ok {context : Context} {value : String → String} {parts : List Part}
    (h : ∀ name, Part.hole name ∈ parts → valueOf context name = some (.text (value name))) :
    renderParts context parts = .ok (String.join (parts.map (Part.filled value))) := by
  induction parts with
  | nil => simp [renderParts]
  | cons part rest ih =>
    have hrest := ih fun name hname => h name (List.mem_cons_of_mem _ hname)
    cases part with
    | text literal => simp [renderParts, hrest, Part.filled]
    | hole name =>
      have hname := h name List.mem_cons_self
      simp [renderParts, hrest, hname, Part.filled, TemplateValue.render]

/-- The parts of a piece, those that may be left out among them. -/
def parts : Piece → List Part
  | .part value => [value]
  | .shownIf _ parts => parts

theorem mem_parts_of_mem_shownParts {context : Context} {template : Template} {part : Part}
    (h : part ∈ shownParts context template) : part ∈ template.flatMap parts := by
  obtain ⟨piece, hpiece, hpart⟩ := List.mem_flatMap.1 h
  refine List.mem_flatMap.2 ⟨piece, hpiece, ?_⟩
  cases piece with
  | part value => exact hpart
  | shownIf name parts =>
    simp only at hpart
    split at hpart
    · exact hpart
    · simp at hpart

/-- The parts of a template with its conditional parts shown, or with none of them. -/
def variant (visible : Bool) (template : Template) : List Part :=
  template.flatMap fun
    | .part value => [value]
    | .shownIf _ parts => if visible then parts else []

def holes (template : Template) : List String :=
  (template.flatMap parts).filterMap fun
    | .text _ => none
    | .hole name => some name

theorem mem_holes {context : Context} {template : Template} {name : String}
    (h : Part.hole name ∈ shownParts context template) : name ∈ holes template :=
  List.mem_filterMap.2 ⟨.hole name, mem_parts_of_mem_shownParts h, rfl⟩

end Template

namespace Fragment

/-- The variables that the template of an operation is given. -/
def variableNames : Operation → List String
  | .create | .update => ["suffix", "model", "query", "args", "scan"]
  | .get => ["suffix", "model", "query", "scan"]
  | .list => ["suffix", "model", "select", "soft_delete_where", "filter_join", "scan"]
  | .delete => ["suffix", "query"]

theorem bindings_names (operation : Operation) (roles : Roles) :
    (bindings operation roles).map Prod.fst = variableNames operation := by
  cases operation <;> rfl

theorem holes_subset_variableNames (operation : Operation) :
    Template.holes (Template.ofOperation operation) ⊆ variableNames operation := by
  cases operation <;> decide

/-- The text that a variable of an operation's template is given. -/
def valueOf (operation : Operation) (roles : Roles) (name : String) : String :=
  ((bindings operation roles).lookup name).getD ""

theorem lookup_map_text (bound : List (String × String)) (name : String) :
    (bound.map fun (name, value) => (name, TemplateValue.text value)).lookup name =
      (bound.lookup name).map .text := by
  induction bound with
  | nil => rfl
  | cons first rest ih =>
    rw [List.map_cons, List.lookup_cons, List.lookup_cons, ih]
    split <;> rfl

theorem lookup_context (operation : Operation) (roles : Roles) {name : String}
    (h : name ∈ variableNames operation) :
    Template.valueOf (context operation roles) name =
      some (.text (valueOf operation roles name)) := by
  obtain ⟨value, hvalue⟩ : ∃ value, (bindings operation roles).lookup name = some value := by
    rw [← bindings_names operation roles, List.mem_map] at h
    obtain ⟨⟨_, value⟩, hmem, rfl⟩ := h
    exact Option.isSome_iff_exists.1 (List.lookup_isSome_iff.2 ⟨_, hmem, by simp⟩)
  simp only [Template.valueOf, context, lookup_map_text, valueOf, hvalue, Option.map_some, Option.getD_some]

def shown (operation : Operation) (roles : Roles) : List Part :=
  Template.shownParts (context operation roles) (Template.ofOperation operation)

def text (operation : Operation) (roles : Roles) : String :=
  String.join ((shown operation roles).map (Part.filled (valueOf operation roles)))

/-- Every operation renders. -/
theorem render_eq_ok (operation : Operation) (roles : Roles) :
    render operation roles = .ok (text operation roles) :=
  Template.renderParts_eq_ok fun _ h =>
    lookup_context operation roles (holes_subset_variableNames operation (Template.mem_holes h))

section Conditional
open Sql
variable (operation : Operation) (roles : Roles)

/-- Whether the conditional part of an operation's template appears: the values of an insertion, or the
clause that leaves deleted rows out of a listing. -/
def visible : Bool :=
  match operation with
  | .create => !(arguments .create roles).isEmpty
  | .list => roles.softDelete.isSome
  | .get | .update | .delete => false

theorem commaList_eq_empty {values : List String} (h : ∀ value ∈ values, value ≠ "") :
    commaList values = "" ↔ values = [] := by
  cases values with
  | nil => simp [commaList]
  | cons value rest =>
    have first := h value List.mem_cons_self
    cases rest <;> simp [commaList, first]

theorem isShown_args :
    Template.isShown (context .create roles) "args" = !(arguments .create roles).isEmpty := by
  have texts : Template.isShown (context .create roles) "args" =
      (commaList (arguments .create roles) != "") := rfl
  have filled : ∀ value ∈ arguments .create roles, value ≠ "" := by
    intro value hvalue
    obtain ⟨field, _, rfl⟩ := List.mem_map.1 hvalue
    simp [Roles.argument]
  rw [texts, Bool.eq_iff_iff]
  simp [commaList_eq_empty filled]

theorem isShown_soft_delete_where :
    Template.isShown (context .list roles) "soft_delete_where" = roles.softDelete.isSome := by
  have texts : Template.isShown (context .list roles) "soft_delete_where" =
      (whereClause (notDeleted roles) != "") := rfl
  rw [texts, notDeleted, Roles.softDeleteColumn?]
  cases roles.softDelete <;> simp [whereClause]

theorem shown_eq_variant : shown operation roles =
    Template.variant (visible operation roles) (Template.ofOperation operation) := by
  cases operation with
  | create =>
    rw [visible, ← isShown_args]
    rfl
  | list =>
    rw [visible, ← isShown_soft_delete_where]
    rfl
  | get => rfl
  | update => rfl
  | delete => rfl

end Conditional

end Fragment
end RecordAccess
