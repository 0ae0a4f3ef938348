import RecordAccess.Proofs.Template.Mentions

/-!
# Templates as text

A template written down, with marks in double braces: `name` for a hole, and a block between `#if name` and `/if`
for the parts that appear only if a variable has something to show. What comes of such a text is said by reading
it once from left to right. Values are put down and not read again, so marks that occur in them mean nothing.
-/
namespace RecordAccess
namespace Template

inductive Mark where
  | hole (name : String)
  /-- Starts a block. -/
  | opens (name : String)
  /-- Ends a block. -/
  | closes
  deriving DecidableEq

namespace Mark

def start : List Char := ['{', '{']

def inner : Mark → List Char
  | hole name => name.toList
  | opens name => ['#', 'i', 'f', ' '] ++ name.toList
  | closes => ['/', 'i', 'f']

/-- A mark as it is written. -/
def text (mark : Mark) : List Char := start ++ mark.inner ++ ['}', '}']

end Mark

/-- The name can stand in a mark. -/
def IsName (name : String) : Prop := name.toList.all fun c => c.isAlpha || c = '_'

instance (name : String) : Decidable (IsName name) := inferInstanceAs (Decidable (_ = true))

def Mark.Proper : Mark → Prop
  | hole name | opens name => IsName name
  | closes => True

end Template

def Part.source : Part → List Char
  | text literal => literal.toList
  | hole name => (Template.Mark.hole name).text

def Piece.source : Piece → List Char
  | part value => value.source
  | shownIf name parts =>
    (Template.Mark.opens name).text ++ parts.flatMap Part.source ++ Template.Mark.closes.text

namespace Template

def source (template : Template) : List Char := template.flatMap Piece.source

/-- Where the reading of a template's text is: outside all blocks, or in a block that shows or does not. -/
inductive Place where
  | outside
  | block (shown : Bool)
  deriving DecidableEq

def Place.shows : Place → Bool
  | outside => true
  | block shown => shown

/-- What is put down of a text at a place. -/
def Place.kept (place : Place) (text : List Char) : List Char := if place.shows then text else []

/-- Where a mark leads and what is put down for it, if these are the texts of the variables. A block shows if its
variable is there and its text is not empty; no variable is looked up in one that does not show. -/
inductive Mark.Reads (value : String → Option String) : Mark → Place → Place → List Char → Prop
  | hole {place : Place} {name text : String} (h : place.shows → value name = some text) :
      Reads value (.hole name) place place (place.kept text.toList)
  | opens {name : String} : Reads value (.opens name) .outside (.block ((value name).any (· != ""))) []
  | closes {shown : Bool} : Reads value .closes (.block shown) .outside []

/-- What comes of the text of a template, from a place on, if these are the texts of the variables. -/
inductive Fills (value : String → Option String) : Place → List Char → List Char → Prop
  | done : Fills value .outside [] []
  | literal {place : Place} {c : Char} {rest out : List Char} (h : ¬Mark.start <+: c :: rest)
      (hrest : Fills value place rest out) : Fills value place (c :: rest) (place.kept [c] ++ out)
  | mark {mark : Mark} {place next : Place} {text rest out : List Char} (proper : mark.Proper)
      (reads : mark.Reads value place next text) (hrest : Fills value next rest out) :
      Fills value place (mark.text ++ rest) (text ++ out)

section Marks
variable {mark other : Mark} {rest tail : List Char}

theorem start_isPrefix (mark : Mark) (rest : List Char) : Mark.start <+: mark.text ++ rest := by
  rw [Mark.text, List.append_assoc, List.append_assoc]
  exact List.prefix_append _ _

theorem IsName.ne {name : String} (h : IsName name) {c : Char} (hc : (c.isAlpha || c = '_') = false) :
    c ∉ name.toList := by
  intro hmem
  have letter := List.all_eq_true.1 h c hmem
  simp_all

theorem Mark.Proper.brace_not_mem (h : mark.Proper) : '}' ∉ mark.inner := by
  cases mark with
  | hole name => exact IsName.ne h rfl
  | opens name => simpa [inner] using IsName.ne h rfl
  | closes => decide

theorem Mark.Proper.inner_inj (h : mark.Proper) (h' : other.Proper) (same : mark.inner = other.inner) :
    mark = other := by
  have apart : ∀ {name : String} {c : Char} {rest : List Char}, IsName name →
      (c.isAlpha || c = '_') = false → name.toList ≠ c :: rest := by
    intro name c rest hname hc heq
    exact hname.ne hc (heq ▸ List.mem_cons_self)
  cases mark with
  | hole name =>
    cases other with
    | hole other => rw [String.toList_inj.1 same]
    | opens other => exact absurd same (apart h rfl)
    | closes => exact absurd same (apart h rfl)
  | opens name =>
    cases other with
    | hole other => exact absurd same.symm (apart h' rfl)
    | opens other => rw [String.toList_inj.1 (List.append_cancel_left same)]
    | closes => simp [inner] at same
  | closes =>
    cases other with
    | hole other => exact absurd same.symm (apart h' rfl)
    | opens other => simp [inner] at same
    | closes => rfl

/-- A text starts with one mark at most. -/
theorem Mark.Proper.text_inj (h : mark.Proper) (h' : other.Proper) (same : mark.text ++ rest = other.text ++ tail) :
    mark = other ∧ rest = tail := by
  have upTo : ∀ {mark : Mark}, mark.Proper → ∀ rest,
      ((mark.text ++ rest).drop 2).takeWhile (· ≠ '}') = mark.inner := by
    intro mark proper rest
    have ahead : ∀ c ∈ mark.inner, decide (c ≠ '}') = true := by
      intro c hc
      exact decide_eq_true fun heq => proper.brace_not_mem (heq ▸ hc)
    have cut : (mark.text ++ rest).drop 2 = mark.inner ++ '}' :: '}' :: rest := by
      simp [text, start]
    rw [cut, List.takeWhile_append_of_pos ahead, List.takeWhile_cons_of_neg (by decide), List.append_nil]
  have inner : mark.inner = other.inner := by rw [← upTo h rest, same, upTo h' tail]
  obtain rfl := h.inner_inj h' inner
  exact ⟨rfl, List.append_cancel_left same⟩

end Marks

section Steps
variable {value : String → Option String} {place : Place} {c : Char} {rest out : List Char}

theorem fills_nil_iff : Fills value place [] out ↔ place = .outside ∧ out = [] := by
  constructor
  · intro fills
    generalize hs : ([] : List Char) = s at fills
    cases fills with
    | done => exact ⟨rfl, rfl⟩
    | literal => cases hs
    | mark => simp [Mark.text, Mark.start] at hs
  · rintro ⟨rfl, rfl⟩
    exact .done

theorem fills_cons_iff (h : ¬Mark.start <+: c :: rest) :
    Fills value place (c :: rest) out ↔
      ∃ after, out = place.kept [c] ++ after ∧ Fills value place rest after := by
  constructor
  · intro fills
    generalize hs : c :: rest = s at fills h
    cases fills with
    | done => cases hs
    | literal _ hrest =>
      obtain ⟨rfl, rfl⟩ := List.cons.inj hs
      exact ⟨_, rfl, hrest⟩
    | mark => exact absurd (start_isPrefix _ _) h
  · rintro ⟨after, rfl, hrest⟩
    exact .literal h hrest

theorem fills_mark_iff (mark : Mark) (proper : mark.Proper) :
    Fills value place (mark.text ++ rest) out ↔ ∃ next text after, mark.Reads value place next text ∧
      out = text ++ after ∧ Fills value next rest after := by
  constructor
  · intro fills
    generalize hs : mark.text ++ rest = s at fills
    cases fills with
    | done => simp [Mark.text, Mark.start] at hs
    | literal h _ => exact absurd (hs ▸ start_isPrefix mark rest) h
    | mark proper' reads hrest =>
      obtain ⟨rfl, rfl⟩ := proper.text_inj proper' hs
      exact ⟨_, _, _, reads, rfl, hrest⟩
  · rintro ⟨next, text, after, reads, rfl, hrest⟩
    exact .mark proper reads hrest

end Steps

end Template
end RecordAccess
