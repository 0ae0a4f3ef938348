import Mathlib.Data.List.Infix
import RecordAccess.Proofs.Source.Outline

/-!
# What the generated text mentions

A word that occurs in filled parts stands in their literal text or in one of the values, if no occurrence can
lie across the border of a hole. The words by which Go code refers to a shared declaration or to an imported
package are such words. The literal text of an operation mentions exactly what the operation requests, and
the text of a declaration exactly the packages that the declaration brings.
-/
namespace RecordAccess

namespace Source

/-- Whether some characters at the start of a word are followed by a hole. -/
def runsInto : List Char → List Symbol → Bool
  | [], _ => false
  | _ :: _, [] => false
  | _ :: _, .hole _ :: _ => true
  | c :: word, .char d :: items => c = d && runsInto word items

/-- Whether no occurrence of a word can lie across the border of a hole. -/
def isApart (word : List Char) : List Symbol → Bool
  | [] => true
  | .char c :: rest => !runsInto word (.char c :: rest) && isApart word rest
  | [.hole _] => true
  | .hole _ :: .char c :: rest => !word.contains c && isApart word (.char c :: rest)
  | .hole _ :: .hole _ :: _ => false

/-- The word stands in the literal text. -/
def Mentions (items : List Symbol) (word : List Char) : Prop := word.map Symbol.char <:+: items

instance (items : List Symbol) (word : List Char) : Decidable (Mentions items word) :=
  inferInstanceAs (Decidable (_ <:+: _))

section Filled
variable {value : String → String} {items : List Symbol} {word : List Char}

theorem prefix_of_not_runsInto (h : runsInto word items = false)
    (hword : word <+: items.flatMap (Symbol.filled value)) : word.map Symbol.char <+: items := by
  induction word generalizing items with
  | nil => exact List.nil_prefix
  | cons c word ih =>
    cases items with
    | nil => simp at hword
    | cons item items =>
      cases item with
      | hole name => simp [runsInto] at h
      | char d =>
        rw [List.flatMap_cons, Symbol.filled, List.singleton_append, List.cons_prefix_cons] at hword
        obtain ⟨rfl, hword⟩ := hword
        have rest : runsInto word items = false := by simpa [runsInto] using h
        rw [List.map_cons, List.cons_prefix_cons]
        exact ⟨rfl, ih rest hword⟩

/-- An occurrence in two texts in a row lies in one of them, or it takes the first character of the
second. -/
theorem infix_append_or {first : List Char} {c : Char} {second : List Char}
    (h : word <:+: first ++ c :: second) : word <:+: first ∨ c ∈ word ∨ word <:+: c :: second := by
  rcases List.infix_append_iff.1 h with h | h | ⟨left, right, rfl, hleft, hright⟩
  · exact .inl h
  · exact .inr (.inr h)
  · cases right with
    | nil =>
      rw [List.append_nil]
      exact .inl hleft.isInfix
    | cons d right =>
      obtain ⟨rfl, _⟩ := List.cons_prefix_cons.1 hright
      exact .inr (.inl (List.mem_append_right _ List.mem_cons_self))

theorem mentions_or_of_infix (h : isApart word items)
    (hword : word <:+: items.flatMap (Symbol.filled value)) :
    Mentions items word ∨ ∃ name, .hole name ∈ items ∧ word <:+: (value name).toList := by
  -- An occurrence starts at a character of the literal text, and then stays in it, or it lies in one value:
  -- the character after a hole is none of the word.
  fun_induction isApart word items with
  | case1 => exact .inl (by simpa [Mentions] using hword)
  | case2 c rest ih =>
    rw [Bool.and_eq_true, Bool.not_eq_true'] at h
    rw [List.flatMap_cons, Symbol.filled, List.singleton_append, List.infix_cons_iff] at hword
    rcases hword with start | later
    · have start : word.map Symbol.char <+: .char c :: rest := prefix_of_not_runsInto h.1 start
      exact .inl start.isInfix
    · rcases ih h.2 later with mention | ⟨name, hname, inside⟩
      · exact .inl (mention.trans (List.infix_cons (List.infix_refl rest)))
      · exact .inr ⟨name, List.mem_cons_of_mem _ hname, inside⟩
  | case3 name =>
    rw [List.flatMap_singleton, Symbol.filled] at hword
    exact .inr ⟨name, List.mem_cons_self, hword⟩
  | case4 name c rest ih =>
    rw [Bool.and_eq_true, Bool.not_eq_true', ← Bool.not_eq_true, List.contains_iff_mem] at h
    rw [List.flatMap_cons, Symbol.filled, List.flatMap_cons, Symbol.filled, List.singleton_append] at hword
    rcases infix_append_or hword with inside | taken | later
    · exact .inr ⟨name, List.mem_cons_self, inside⟩
    · exact absurd taken h.1
    · rcases ih h.2 later with mention | ⟨other, hother, inside⟩
      · exact .inl (mention.trans (List.infix_cons (List.infix_refl _)))
      · exact .inr ⟨other, List.mem_cons_of_mem _ hother, inside⟩
  | case5 => simp at h

theorem Mentions.infix (value : String → String) (h : Mentions items word) :
    word <:+: items.flatMap (Symbol.filled value) := by
  have filled := h.flatMap (Symbol.filled value)
  rwa [flatMap_filled_map_char] at filled

end Filled

def symbols : Part → List Symbol
  | .text literal => literal.toList.map .char
  | .hole name => [.hole name]

theorem Spelled.eq_symbols {parts : List Part} {items : List Symbol} (h : Spelled parts items) :
    items = parts.flatMap symbols := by
  induction h with
  | nil => rfl
  | hole name _ ih => rw [ih, List.flatMap_cons, symbols, List.singleton_append]
  | append _ ih =>
    rw [ih]
    simp only [List.flatMap_cons, symbols, String.toList_append, List.map_append, List.append_assoc]
  | text chars _ ih => rw [ih, List.flatMap_cons, symbols, String.toList_ofList]

end Source

section Words
open Source

/-- How Go code refers to what an imported package holds: by the last name of the path. -/
def qualifier (path : String) : List Char := (path.toList.splitOn '/').getLastD [] ++ ['.']

/-- How Go code refers to what a request asks for. -/
def Request.word : Request → List Char
  | .declaration shared => shared.identifier.toList
  | .importPath path => qualifier path

def packages : List String :=
  [Declaration.databaseImport, Declaration.errorsImport, Fragment.formatImport, Fragment.stringsImport]

/-- Everything that the generated code can refer to outside its own text. -/
def vocabulary : List Request := Declaration.all.map .declaration ++ packages.map .importPath

/-- Whether the symbols mention exactly the given requests, and no identifier of a declaration across the
border of a hole. -/
def mentionExactly (requests : List Request) (items : List Symbol) : Bool :=
  vocabulary.all (fun request => decide (Mentions items request.word ↔ request ∈ requests)) &&
    Declaration.all.all fun declaration => isApart declaration.identifier.toList items

theorem declaration_mem_vocabulary (declaration : Declaration) :
    .declaration declaration ∈ vocabulary := by
  cases declaration <;> decide

theorem importPath_mem_vocabulary {path : String} (h : path ∈ packages) :
    .importPath path ∈ vocabulary :=
  List.mem_append_right _ (List.mem_map_of_mem h)

section Spelled
variable {parts : List Part} {items : List Symbol} {listed : List Request}

theorem mentions_iff_of_mentionExactly (hparts : Spelled parts items)
    (h : mentionExactly listed items = true) {request : Request} (hrequest : request ∈ vocabulary) :
    Mentions (parts.flatMap symbols) request.word ↔ request ∈ listed := by
  rw [mentionExactly, Bool.and_eq_true, List.all_eq_true] at h
  rw [← hparts.eq_symbols]
  exact of_decide_eq_true (h.1 request hrequest)

theorem isApart_of_mentionExactly (hparts : Spelled parts items)
    (h : mentionExactly listed items = true) (declaration : Declaration) :
    isApart declaration.identifier.toList (parts.flatMap symbols) = true := by
  rw [mentionExactly, Bool.and_eq_true, List.all_eq_true, List.all_eq_true] at h
  rw [← hparts.eq_symbols]
  exact h.2 declaration (by cases declaration <;> decide)

end Spelled

theorem flatMap_filled_symbols (value : String → String) (parts : List Part) :
    (parts.flatMap symbols).flatMap (Symbol.filled value) =
      (String.join (parts.map (Part.filled value))).toList := by
  induction parts with
  | nil => rfl
  | cons part rest ih =>
    rw [List.flatMap_cons, List.flatMap_append, ih, List.map_cons, String.join_cons, String.toList_append]
    cases part with
    | text literal => rw [symbols, flatMap_filled_map_char, Part.filled]
    | hole name => rw [symbols, List.flatMap_singleton, Symbol.filled, Part.filled]

end Words

namespace Fragment
open Source

theorem exists_mentioning (operation : Operation) (visible : Bool) :
    ∃ items, Spelled (Template.variant visible (Template.ofOperation operation)) items ∧
      mentionExactly (requests operation) items = true := by
  cases operation <;> cases visible <;> exact ⟨_, by repeat' constructor, by decide +kernel⟩

section Text
variable (operation : Operation) (roles : Roles)

/-- The word stands in the text that an operation has for all records whose conditional parts are the same. -/
def Mentions (word : List Char) : Prop :=
  Source.Mentions ((shown operation roles).flatMap symbols) word

/-- An operation mentions what it requests, and nothing else outside its text. -/
theorem mentions_iff {request : Request} (h : request ∈ vocabulary) :
    Mentions operation roles request.word ↔ request ∈ requests operation := by
  obtain ⟨items, spelled, exact⟩ := exists_mentioning operation (visible operation roles)
  rw [Mentions, shown_eq_variant]
  exact mentions_iff_of_mentionExactly spelled exact h

theorem Mentions.infix_text {word : List Char} (h : Mentions operation roles word) :
    word <:+: (text operation roles).toList := by
  rw [text, ← flatMap_filled_symbols]
  exact Source.Mentions.infix _ h

/-- Where the identifier of a declaration occurs in an operation, the operation mentions it, or the record
has given a variable a text with that identifier in it. -/
theorem mentions_or_of_infix_text {declaration : Declaration}
    (h : declaration.identifier.toList <:+: (text operation roles).toList) :
    Mentions operation roles declaration.identifier.toList ∨
      ∃ name ∈ variableNames operation,
        declaration.identifier.toList <:+: (valueOf operation roles name).toList := by
  obtain ⟨items, spelled, exact⟩ := exists_mentioning operation (visible operation roles)
  rw [← shown_eq_variant] at spelled
  rw [text, ← flatMap_filled_symbols] at h
  rcases mentions_or_of_infix (isApart_of_mentionExactly spelled exact declaration) h with
    mention | ⟨name, hname, inside⟩
  · exact .inl mention
  · obtain ⟨part, hpart, hsymbol⟩ := List.mem_flatMap.1 hname
    obtain rfl : part = .hole name := by
      cases part with
      | text literal => simp [symbols] at hsymbol
      | hole other => simpa [symbols, eq_comm] using hsymbol
    exact .inr ⟨name, holes_subset_variableNames operation (Template.mem_holes hpart), inside⟩

end Text
end Fragment

namespace Declaration
open Source

/-- What the text of a declaration mentions: its own identifier and the packages that it brings. -/
def mentioned (declaration : Declaration) : List Request :=
  .declaration declaration :: declaration.imports.map .importPath

theorem exists_mentioning (declaration : Declaration) :
    ∃ items, Spelled [.text declaration.text] items ∧
      mentionExactly declaration.mentioned items = true := by
  cases declaration <;> exact ⟨_, by repeat' constructor, by decide +kernel⟩

theorem infix_text_iff (declaration : Declaration) {request : Request} (h : request ∈ vocabulary) :
    request.word <:+: declaration.text.toList ↔ request ∈ declaration.mentioned := by
  obtain ⟨items, spelled, exact⟩ := exists_mentioning declaration
  have injective : Function.Injective Symbol.char := fun _ _ h => Symbol.char.inj h
  rw [← mentions_iff_of_mentionExactly spelled exact h, Mentions, List.flatMap_singleton, symbols,
    List.infix_map_iff]
  constructor
  · intro inside
    exact ⟨_, inside, rfl⟩
  · rintro ⟨other, inside, same⟩
    rwa [List.map_injective_iff.2 injective same]

end Declaration
end RecordAccess
