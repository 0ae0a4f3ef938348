import RecordAccess.Json.Layout
import RecordAccess.Template

/-!
# Contexts in JSON text

The values of a template's variables can be given as the members of a JSON object. Every value has its
place here; of members of one name the last one counts.
-/
namespace RecordAccess.TemplateValue

open Json (Found Reader Reading Stop malformed map_eq_ok readFound readItems readString skipGap)
open Json.Layout (nextKey skipColon)

/-- A value that holds no others, as it was met. -/
def ofFound : Found → Option TemplateValue
  | .null => some .null
  | .boolean value => some (.boolean value)
  | .integer value => some (.integer value)
  | .fraction value => some (.fraction value)
  | .text value => some (.text value)
  | .sequence | .map => none

/-- Reads a value that holds no others. -/
def readScalar (s : List Char) : Reading TemplateValue :=
  match readFound s with
  | .error stop => .error stop
  | .ok (found, rest) =>
    match ofFound found with
    | some value => .ok (value, rest)
    | none => malformed rest

/-- Reads a key, its colon and a value. -/
def readMember (value : Reader TemplateValue) (s : List Char) : Reading (String × TemplateValue) :=
  match readString s with
  | .error stop => .error stop
  | .ok (key, rest) =>
    match skipColon rest with
    | .error stop => .error stop
    | .ok rest => (value.run rest).map fun (value, rest) => ((key, value), rest)

theorem length_of_readMember {value : Reader TemplateValue} {s rest : List Char}
    {member : String × TemplateValue} (h : readMember value s = .ok (member, rest)) :
    rest.length < s.length := by
  unfold readMember at h
  split at h
  · simp at h
  · next hk =>
    split at h
    · simp at h
    · next hc =>
      obtain ⟨⟨_, _⟩, hv, h⟩ := map_eq_ok h
      simp only [Prod.mk.injEq] at h
      have := value.length_lt hv
      have := Json.Layout.length_of_skipColon hc
      have := Json.length_of_readString hk
      rw [← h.2]
      omega

/-- Reads the members of an object after its opening bracket; `members` are those before them, the last
one first. -/
def readMembers (value : Reader TemplateValue) (members : List (String × TemplateValue))
    (s : List Char) : Reading (List (String × TemplateValue)) :=
  match _hn : nextKey members.isEmpty s with
  | .error stop => .error stop
  | .ok (.closed rest) => .ok (members, rest)
  | .ok (.item rest) =>
    match _hm : readMember value rest with
    | .error stop => .error stop
    | .ok (member, rest) => readMembers value (member :: members) rest
termination_by s.length
decreasing_by exact Nat.lt_trans (length_of_readMember _hm) (Json.Layout.length_of_nextKey _hn)

theorem length_of_readMembers {value : Reader TemplateValue}
    {members out : List (String × TemplateValue)} {s rest : List Char}
    (h : readMembers value members s = .ok (out, rest)) : rest.length < s.length := by
  fun_induction readMembers value members s with
  | case1 => simp at h
  | case2 _ _ _ hn =>
    simp only [Except.ok.injEq, Prod.mk.injEq] at h
    rw [← h.2]
    exact Json.Layout.length_of_nextKey hn
  | case3 => simp at h
  | case4 _ _ _ hn _ _ hm ih =>
    exact Nat.lt_trans (ih h) (Nat.lt_trans (length_of_readMember hm) (Json.Layout.length_of_nextKey hn))

/-- Reads a value, where `inner` reads those that stand inside it. -/
def readWith (inner : Option (Reader TemplateValue)) (s : List Char) : Reading TemplateValue :=
  match skipGap s, inner with
  | '[' :: rest, some inner => (readItems inner true rest).map fun (items, rest) => (.list items, rest)
  | '{' :: rest, some inner =>
    (readMembers inner [] rest).map fun (members, rest) => (.object members, rest)
  | rest, _ => readScalar rest

theorem length_of_readScalar {s rest : List Char} {value : TemplateValue}
    (h : readScalar s = .ok (value, rest)) : rest.length < s.length := by
  unfold readScalar at h
  split at h
  · simp at h
  · next found after hf =>
    split at h
    · next hv =>
      simp only [Except.ok.injEq, Prod.mk.injEq] at h
      rw [← h.2]
      exact Json.length_of_readFound hf (by rintro rfl; simp [ofFound] at hv)
        (by rintro rfl; simp [ofFound] at hv)
    · simp [malformed] at h

theorem length_of_readWith {inner : Option (Reader TemplateValue)} {s rest : List Char}
    {value : TemplateValue} (h : readWith inner s = .ok (value, rest)) :
    rest.length < s.length := by
  unfold readWith at h
  split at h
  · next hs =>
    obtain ⟨⟨_, _⟩, hi, h⟩ := map_eq_ok h
    simp only [Prod.mk.injEq] at h
    rw [← h.2]
    exact Nat.lt_of_le_of_lt (Json.length_of_readItems hi) (Json.length_of_skipGap hs)
  · next hs =>
    obtain ⟨⟨_, _⟩, hi, h⟩ := map_eq_ok h
    simp only [Prod.mk.injEq] at h
    rw [← h.2]
    exact Nat.lt_trans (length_of_readMembers hi) (Json.length_of_skipGap hs)
  · exact Nat.lt_of_lt_of_le (length_of_readScalar h) (Json.length_skipGap s)

/-- The reader of a value; `depth` bounds the values that stand inside one another. -/
def reader : Nat → Reader TemplateValue
  | 0 => ⟨readWith none, length_of_readWith⟩
  | depth + 1 => ⟨readWith (some (reader depth)), length_of_readWith⟩

/-- The depth up to which values may stand inside one another. -/
def maxDepth : Nat := 127

def parse (text : String) : Except Stop TemplateValue :=
  Json.readWhole? (reader maxDepth).run text.toList

/-- The context that an object gives. -/
def context? : TemplateValue → Option Context
  | object members => some members
  | _ => none

def member? (value : TemplateValue) (name : String) : Option TemplateValue :=
  value.context?.bind (·.lookup name)

end RecordAccess.TemplateValue
