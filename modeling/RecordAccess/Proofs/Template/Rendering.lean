import RecordAccess.Proofs.Template.Source

/-!
# Rendering reads the text

Rendering a template comes to what the template's text comes to, where the context gives texts to the variables.
For this the literal text must have no marks of its own, not even one that it makes with what follows.
-/
namespace RecordAccess

section Plain
open Template

/-- Whatever follows the part, its text has no mark but its own. -/
def Part.Plain : Part → Prop
  | text literal => ¬Mark.start <:+: literal.toList ++ ['{']
  | hole name => IsName name

def Piece.Plain : Piece → Prop
  | part value => value.Plain
  | shownIf name parts => IsName name ∧ ∀ part ∈ parts, part.Plain

/-- The variables that a part or a piece looks up. -/
def Part.variables : Part → List String
  | text _ => []
  | hole name => [name]

def Piece.variables : Piece → List String
  | part value => value.variables
  | shownIf name parts => name :: parts.flatMap Part.variables

def Part.textIn (context : Context) : Part → Option String
  | text literal => some literal
  | hole name => (valueOf context name).map TemplateValue.render

end Plain

namespace Template

/-- The text that a context gives to a variable, if it gives one. -/
def textOf (context : Context) (name : String) : Option String :=
  match valueOf context name with
  | some (.text text) => some text
  | _ => none

/-- What the context gives to the variable, if it gives anything, is a text. -/
def Textual (context : Context) (name : String) : Prop :=
  ∀ value, valueOf context name = some value → ∃ text, value = .text text

section Parts
variable {context : Context} {part : Part} {parts more : List Part} {text : String}

theorem renderParts_cons_eq_ok_iff : renderParts context (part :: parts) = .ok text ↔
    ∃ first after, part.textIn context = some first ∧ renderParts context parts = .ok after ∧
      text = first ++ after := by
  cases part with
  | text literal =>
    simp only [renderParts, Part.textIn]
    cases renderParts context parts <;> simp [eq_comm]
  | hole name =>
    simp only [renderParts, Part.textIn]
    cases valueOf context name with
    | none => simp
    | some value =>
      simp only [Option.map_some]
      cases renderParts context parts <;> simp [eq_comm]

theorem renderParts_append_eq_ok_iff : renderParts context (parts ++ more) = .ok text ↔
    ∃ first after, renderParts context parts = .ok first ∧ renderParts context more = .ok after ∧
      text = first ++ after := by
  induction parts generalizing text with
  | nil => simp [renderParts]
  | cons part parts ih =>
    simp only [List.cons_append, renderParts_cons_eq_ok_iff, ih]
    constructor
    · rintro ⟨first, _, hfirst, ⟨between, after, hbetween, hafter, rfl⟩, rfl⟩
      exact ⟨_, after, ⟨first, between, hfirst, hbetween, rfl⟩, hafter, (String.append_assoc ..).symm⟩
    · rintro ⟨_, after, ⟨first, between, hfirst, hbetween, rfl⟩, hafter, rfl⟩
      exact ⟨first, _, hfirst, ⟨between, after, hbetween, hafter, rfl⟩, String.append_assoc ..⟩

end Parts

section Filling
variable {context : Context} {place : Place} {rest out : List Char}

theorem not_start_isPrefix {c : Char} {chars : List Char} (h : ¬Mark.start <:+: c :: chars ++ ['{']) :
    ¬Mark.start <+: c :: (chars ++ rest) := by
  intro hstart
  obtain ⟨rfl, hnext⟩ := List.cons_prefix_cons.1 hstart
  cases chars with
  | nil => exact h (List.infix_refl _)
  | cons d chars =>
    obtain ⟨rfl, _⟩ := List.cons_prefix_cons.1 hnext
    exact h (List.prefix_append Mark.start (chars ++ ['{'])).isInfix

theorem fills_literal_iff {value : String → Option String} {chars : List Char}
    (h : ¬Mark.start <:+: chars ++ ['{']) :
    Fills value place (chars ++ rest) out ↔
      ∃ after, out = place.kept chars ++ after ∧ Fills value place rest after := by
  induction chars generalizing out with
  | nil => cases place.shows <;> simp [Place.kept]
  | cons c chars ih =>
    have later : ¬Mark.start <:+: chars ++ ['{'] := fun hchars => h (List.infix_cons hchars)
    have kept : place.kept (c :: chars) = place.kept [c] ++ place.kept chars := by
      unfold Place.kept
      split <;> rfl
    rw [List.cons_append, fills_cons_iff (not_start_isPrefix h)]
    constructor
    · rintro ⟨_, rfl, hrest⟩
      obtain ⟨after, rfl, hafter⟩ := (ih later).1 hrest
      exact ⟨after, by rw [kept, List.append_assoc], hafter⟩
    · rintro ⟨after, rfl, hafter⟩
      exact ⟨_, by rw [kept, List.append_assoc], (ih later).2 ⟨after, rfl, hafter⟩⟩

theorem Textual.textIn_hole {name : String} (h : Textual context name) :
    (Part.hole name).textIn context = textOf context name := by
  rw [Part.textIn, textOf]
  cases hvalue : valueOf context name with
  | none => rfl
  | some value =>
    obtain ⟨text, rfl⟩ := h value hvalue
    rw [Option.map_some, TemplateValue.render]

theorem Textual.isShown_eq {name : String} (h : Textual context name) :
    isShown context name = (textOf context name).any (· != "") := by
  rw [isShown, textOf]
  cases hvalue : valueOf context name with
  | none => rfl
  | some value =>
    obtain ⟨text, rfl⟩ := h value hvalue
    rfl

theorem fills_part_iff {part : Part} (plain : part.Plain)
    (textual : ∀ name ∈ part.variables, Textual context name) :
    Fills (textOf context) place (part.source ++ rest) out ↔
      ∃ text after, (place.shows → part.textIn context = some text) ∧
        out = place.kept text.toList ++ after ∧ Fills (textOf context) place rest after := by
  cases part with
  | text literal =>
    rw [Part.source, fills_literal_iff plain]
    constructor
    · rintro ⟨after, rfl, hrest⟩
      exact ⟨literal, after, fun _ => rfl, rfl, hrest⟩
    · rintro ⟨text, after, htext, rfl, hrest⟩
      refine ⟨after, ?_, hrest⟩
      unfold Place.kept
      split
      · next shows => rw [Option.some.inj (htext shows)]
      · rfl
  | hole name =>
    rw [Part.source, fills_mark_iff (.hole name) plain, (textual name List.mem_cons_self).textIn_hole]
    constructor
    · rintro ⟨_, _, after, ⟨htext⟩, rfl, hrest⟩
      exact ⟨_, after, htext, rfl, hrest⟩
    · rintro ⟨text, after, htext, rfl, hrest⟩
      exact ⟨place, _, after, .hole htext, rfl, hrest⟩

section Row
variable {parts : List Part} (plain : ∀ part ∈ parts, part.Plain)
  (textual : ∀ name ∈ parts.flatMap Part.variables, Textual context name)
include plain textual

/-- Where nothing shows, parts come to nothing. -/
theorem fills_hidden_iff (hidden : place.shows = false) :
    Fills (textOf context) place (parts.flatMap Part.source ++ rest) out ↔
      Fills (textOf context) place rest out := by
  induction parts with
  | nil => rfl
  | cons part parts ih =>
    rw [List.forall_mem_cons] at plain
    rw [List.flatMap_cons, List.forall_mem_append] at textual
    rw [List.flatMap_cons, List.append_assoc, fills_part_iff plain.1 textual.1]
    simp [Place.kept, hidden, ih plain.2 textual.2]

/-- Elsewhere they come to what they render to. -/
theorem fills_shown_iff (shows : place.shows = true) :
    Fills (textOf context) place (parts.flatMap Part.source ++ rest) out ↔
      ∃ text after, renderParts context parts = .ok text ∧ out = text.toList ++ after ∧
        Fills (textOf context) place rest after := by
  induction parts generalizing out with
  | nil => simp [renderParts]
  | cons part parts ih =>
    rw [List.forall_mem_cons] at plain
    rw [List.flatMap_cons, List.forall_mem_append] at textual
    rw [List.flatMap_cons, List.append_assoc, fills_part_iff plain.1 textual.1]
    simp only [renderParts_cons_eq_ok_iff, ih plain.2 textual.2, Place.kept, shows, if_true, forall_const]
    constructor
    · rintro ⟨first, _, hfirst, rfl, text, after, htext, rfl, hafter⟩
      exact ⟨_, after, ⟨first, text, hfirst, htext, rfl⟩, by simp, hafter⟩
    · rintro ⟨_, after, ⟨first, text, hfirst, htext, rfl⟩, rfl, hafter⟩
      exact ⟨first, _, hfirst, by simp, text, after, htext, rfl, hafter⟩

end Row

/-- A piece outside all blocks comes to what it renders to. -/
theorem fills_piece_iff {piece : Piece} (plain : piece.Plain)
    (textual : ∀ name ∈ piece.variables, Textual context name) :
    Fills (textOf context) .outside (piece.source ++ rest) out ↔
      ∃ text after, renderParts context (shownParts context [piece]) = .ok text ∧ out = text.toList ++ after ∧
        Fills (textOf context) .outside rest after := by
  cases piece with
  | part value =>
    have row := @fills_shown_iff context .outside rest out [value] (List.forall_mem_singleton.2 plain)
      (by rwa [List.flatMap_singleton]) rfl
    rwa [List.flatMap_singleton] at row
  | shownIf name parts =>
    obtain ⟨proper, plain⟩ := plain
    obtain ⟨htextual, textual⟩ := List.forall_mem_cons.1 textual
    have closed : ∀ shown out, Fills (textOf context) (.block shown) (Mark.closes.text ++ rest) out ↔
        Fills (textOf context) .outside rest out := by
      intro shown out
      rw [fills_mark_iff .closes trivial]
      constructor
      · rintro ⟨_, _, after, ⟨⟩, rfl, hafter⟩
        exact hafter
      · intro hafter
        exact ⟨_, _, out, .closes, rfl, hafter⟩
    have opened : Fills (textOf context) .outside ((Piece.shownIf name parts).source ++ rest) out ↔
        Fills (textOf context) (.block (isShown context name))
          (parts.flatMap Part.source ++ (Mark.closes.text ++ rest)) out := by
      rw [Piece.source, List.append_assoc, List.append_assoc, fills_mark_iff (.opens name) proper,
        htextual.isShown_eq]
      constructor
      · rintro ⟨_, _, after, ⟨⟩, rfl, hafter⟩
        exact hafter
      · intro hafter
        exact ⟨_, _, out, .opens, rfl, hafter⟩
    rw [opened]
    cases shown : isShown context name with
    | false =>
      rw [fills_hidden_iff plain textual rfl, closed]
      simp [shownParts, shown, renderParts]
    | true =>
      rw [fills_shown_iff plain textual rfl]
      simp only [closed, shownParts, List.flatMap_singleton, shown, if_true]

/-- The text of a template comes to what the template renders to, and to nothing if it does not. -/
theorem fills_source_iff {template : Template} (plain : ∀ piece ∈ template, piece.Plain)
    (textual : ∀ name ∈ template.flatMap Piece.variables, Textual context name) :
    Fills (textOf context) .outside (source template) out ↔
      ∃ text, template.render context = .ok text ∧ out = text.toList := by
  induction template generalizing out with
  | nil => simp [source, render, shownParts, renderParts, fills_nil_iff]
  | cons piece template ih =>
    rw [List.forall_mem_cons] at plain
    rw [List.flatMap_cons, List.forall_mem_append] at textual
    have shown : shownParts context (piece :: template) =
        shownParts context [piece] ++ shownParts context template := @List.flatMap_append _ _ [piece] template _
    rw [source, List.flatMap_cons, fills_piece_iff plain.1 textual.1, render, shown]
    simp only [renderParts_append_eq_ok_iff]
    constructor
    · rintro ⟨first, _, hfirst, rfl, hafter⟩
      obtain ⟨text, htext, rfl⟩ := (ih plain.2 textual.2).1 hafter
      exact ⟨_, ⟨first, text, hfirst, htext, rfl⟩, String.toList_append.symm⟩
    · rintro ⟨_, ⟨first, text, hfirst, htext, rfl⟩, rfl⟩
      exact ⟨first, _, hfirst, String.toList_append, (ih plain.2 textual.2).2 ⟨text, htext, rfl⟩⟩

end Filling
end Template
end RecordAccess
