import RecordAccess.Text.Blank

/-!
# Struct tags

A tag is a row of pairs `key:"value"`, each after any blanks. A key is the text up to the first colon
and a value the text up to the first quote that no backslash escapes. The column of a field is the
part of the first `db` value before its first comma, unless that is empty or a dash. Reading stops at
the first text that is no pair, so later pairs are not seen.
-/
namespace RecordAccess.Tag

open Text

/-- One `key:"value"` of a tag, the value as written. -/
structure Pair where
  key : List Char
  value : List Char
  deriving DecidableEq, Repr

/-- The text up to the first quote that no backslash escapes, and the text after that quote. -/
def takeValue : List Char → Option (List Char × List Char)
  | [] => none
  | '"' :: rest => some ([], rest)
  | '\\' :: c :: rest => (takeValue rest).map fun (value, rest) => ('\\' :: c :: value, rest)
  | c :: rest => (takeValue rest).map fun (value, rest) => (c :: value, rest)

theorem length_of_takeValue {s value rest : List Char} (h : takeValue s = some (value, rest)) :
    rest.length < s.length := by
  fun_induction takeValue s generalizing value rest with
  | case1 => simp at h
  | case2 r =>
    simp only [Option.some.injEq, Prod.mk.injEq] at h
    simp [← h.2]
  | case3 c r ih =>
    obtain ⟨⟨v, t⟩, ht, he⟩ := Option.map_eq_some_iff.1 h
    have := ih ht
    simp only [Prod.mk.injEq] at he
    simp only [List.length_cons, ← he.2]
    omega
  | case4 c r _ _ ih =>
    obtain ⟨⟨v, t⟩, ht, he⟩ := Option.map_eq_some_iff.1 h
    have := ih ht
    simp only [Prod.mk.injEq] at he
    simp only [List.length_cons, ← he.2]
    omega

/-- The pair at the start of the text, blanks before it passed over, and the text after it. -/
def takePair (s : List Char) : Option (Pair × List Char) :=
  let body := trimStart s
  match body.dropWhile (· != ':') with
  | ':' :: '"' :: rest =>
    (takeValue rest).map fun (value, rest) => (⟨body.takeWhile (· != ':'), value⟩, rest)
  | _ => none

theorem length_of_takePair {s rest : List Char} {pair : Pair} (h : takePair s = some (pair, rest)) :
    rest.length < s.length := by
  simp only [takePair] at h
  split at h
  · next r heq =>
    obtain ⟨⟨v, t⟩, ht, he⟩ := Option.map_eq_some_iff.1 h
    have hlen := length_of_takeValue ht
    have hd : (':' :: '"' :: r).length ≤ (trimStart s).length := by
      rw [← heq]
      exact (List.dropWhile_sublist _).length_le
    have hs : (trimStart s).length ≤ s.length := (List.dropWhile_sublist _).length_le
    simp only [List.length_cons] at hd
    simp only [Prod.mk.injEq] at he
    rw [← he.2]
    omega
  · simp at h

/-- The pairs at the start of the text, up to the first text that is no pair. -/
def pairs (s : List Char) : List Pair :=
  match _h : takePair s with
  | none => []
  | some (pair, rest) => pair :: pairs rest
termination_by s.length
decreasing_by exact length_of_takePair ‹_›

/-- Removes the backquotes from both ends. -/
def unquote (s : List Char) : List Char :=
  ((s.dropWhile (· == '\x60')).reverse.dropWhile (· == '\x60')).reverse

/-- The column that a `db` value names. -/
def columnOfValue (value : List Char) : Option String :=
  let column := trim (value.takeWhile (· != ','))
  if column = [] ∨ column = ['-'] then none else some (String.ofList column)

/-- Whether the pair gives the column. -/
def Pair.isColumn (pair : Pair) : Bool := trim pair.key == ['d', 'b']

def column? (tag : String) : Option String :=
  ((pairs (unquote (trim tag.toList))).find? Pair.isColumn).bind fun pair => columnOfValue pair.value

end RecordAccess.Tag
