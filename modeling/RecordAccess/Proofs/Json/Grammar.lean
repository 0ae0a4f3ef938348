import Mathlib.Data.List.Forall2

/-!
# The grammar of JSON text

The texts of strings, of any value, and of lists and structures, as relations between a value and its texts
that know no reader. A string has many texts, since every character may be escaped, and so has a structure:
its members may stand in any order among others, or without their keys in a row.
-/
namespace RecordAccess.Json

/-- Any number of the characters that may stand between two tokens. -/
def Gap (s : List Char) : Prop := ∀ c ∈ s, c ∈ [' ', '\t', '\n', '\r']

instance (s : List Char) : Decidable (Gap s) := List.decidableBAll _ s

/-- The character is a hexadecimal digit of this value. -/
def HexDigit (c : Char) (n : Nat) : Prop :=
  "0123456789abcdef".toList[n]? = some c ∨ "0123456789ABCDEF".toList[n]? = some c

inductive UnitText : Nat → List Char → Prop
  | digits {a b c d : Char} {i j k l : Nat} (ha : HexDigit a i) (hb : HexDigit b j) (hc : HexDigit c k)
      (hd : HexDigit d l) : UnitText (i * 0x1000 + j * 0x100 + k * 0x10 + l) [a, b, c, d]

/-- The letters that may stand after a backslash, and the characters that they stand for. -/
def shortEscapes : List (Char × Char) :=
  [('"', '"'), ('\\', '\\'), ('/', '/'), ('b', '\x08'), ('f', '\x0c'), ('n', '\n'), ('r', '\r'), ('t', '\t')]

/-- The character may stand for itself in a string. -/
def Plain (c : Char) : Prop := 0x20 ≤ c.toNat ∧ c ≠ '"' ∧ c ≠ '\\'

instance (c : Char) : Decidable (Plain c) := inferInstanceAs (Decidable (_ ∧ _))

/-- A text that stands for a character in a string: the character itself, a short escape, its number, or
the numbers of its two halves if it lies beyond the first plane. -/
inductive CharText : Char → List Char → Prop
  | plain {c : Char} (h : Plain c) : CharText c [c]
  | short {c letter : Char} (h : (letter, c) ∈ shortEscapes) : CharText c ['\\', letter]
  | unit {c : Char} {digits : List Char} (h : UnitText c.toNat digits) : CharText c ('\\' :: 'u' :: digits)
  | halves {c : Char} {high low : Nat} {first second : List Char}
      (hhigh : 0xD800 ≤ high ∧ high ≤ 0xDBFF) (hlow : 0xDC00 ≤ low ∧ low ≤ 0xDFFF)
      (hfirst : UnitText high first) (hsecond : UnitText low second)
      (h : c.toNat = 0x10000 + (high - 0xD800) * 0x400 + (low - 0xDC00)) :
      CharText c ('\\' :: 'u' :: first ++ '\\' :: 'u' :: second)

inductive BodyText : List Char → List Char → Prop
  | nil : BodyText [] []
  | cons {c : Char} {chars part text : List Char} (h : CharText c part) (rest : BodyText chars text) :
      BodyText (c :: chars) (part ++ text)

inductive StringText (s : String) : List Char → Prop
  | quoted {body : List Char} (h : BodyText s.toList body) : StringText s ('"' :: body ++ ['"'])

/-- A text between the quotes of any string. Escaped numbers need not be those of characters. -/
inductive LooseBody : List Char → Prop
  | nil : LooseBody []
  | plain {c : Char} {text : List Char} (h : Plain c) (rest : LooseBody text) : LooseBody (c :: text)
  | short {c letter : Char} {text : List Char} (h : (letter, c) ∈ shortEscapes) (rest : LooseBody text) :
      LooseBody ('\\' :: letter :: text)
  | unit {n : Nat} {digits text : List Char} (h : UnitText n digits) (rest : LooseBody text) :
      LooseBody ('\\' :: 'u' :: digits ++ text)

inductive LooseString : List Char → Prop
  | quoted {body : List Char} (h : LooseBody body) : LooseString ('"' :: body ++ ['"'])

/-- Decimal digits, if any. -/
def Digits (s : List Char) : Prop := ∀ c ∈ s, c ∈ "0123456789".toList

/-- A row of digits without a superfluous zero at its start. -/
inductive Whole : List Char → Prop
  | zero : Whole ['0']
  | digits {c : Char} {rest : List Char} (h : c ∈ "123456789".toList) (hrest : Digits rest) :
      Whole (c :: rest)

inductive Fraction : List Char → Prop
  | none : Fraction []
  | digits {places : List Char} (h : Digits places) (hsome : places ≠ []) : Fraction ('.' :: places)

inductive Exponent : List Char → Prop
  | none : Exponent []
  | digits {letter : Char} {sign places : List Char} (hletter : letter ∈ ['e', 'E'])
      (hsign : sign ∈ [[], ['+'], ['-']]) (h : Digits places) (hsome : places ≠ []) :
      Exponent (letter :: sign ++ places)

inductive NumberText : List Char → Prop
  | parts {sign whole fraction exponent : List Char} (hsign : sign ∈ [[], ['-']]) (hwhole : Whole whole)
      (hfraction : Fraction fraction) (hexponent : Exponent exponent) :
      NumberText (sign ++ whole ++ fraction ++ exponent)

/-- The texts after the first item of a row, with gaps around the commas and at the end. -/
inductive Continued : List (List Char) → List Char → Prop
  | nil {gap : List Char} (h : Gap gap) : Continued [] gap
  | cons {before after part text : List Char} {parts : List (List Char)} (hbefore : Gap before)
      (hafter : Gap after) (rest : Continued parts text) :
      Continued (part :: parts) (before ++ ',' :: after ++ part ++ text)

/-- The texts of a row, with commas between them and gaps anywhere. -/
inductive Joined : List (List Char) → List Char → Prop
  | nil {gap : List Char} (h : Gap gap) : Joined [] gap
  | cons {gap part text : List Char} {parts : List (List Char)} (h : Gap gap)
      (rest : Continued parts text) : Joined (part :: parts) (gap ++ part ++ text)

/-- A key and a value, with a colon between them. -/
inductive MemberText : List Char → List Char → List Char → Prop
  | colon {key value before after : List Char} (hbefore : Gap before) (hafter : Gap after) :
      MemberText key value (key ++ before ++ ':' :: after ++ value)

inductive ValueText : List Char → Prop
  | null : ValueText ['n', 'u', 'l', 'l']
  | true : ValueText ['t', 'r', 'u', 'e']
  | false : ValueText ['f', 'a', 'l', 's', 'e']
  | number {text : List Char} (h : NumberText text) : ValueText text
  | string {text : List Char} (h : LooseString text) : ValueText text
  | array {items : List (List Char)} {body : List Char} (h : ∀ item ∈ items, ValueText item)
      (hbody : Joined items body) : ValueText ('[' :: body ++ [']'])
  | object {members : List (List Char × List Char)} {parts : List (List Char)} {body : List Char}
      (hkeys : ∀ member ∈ members, LooseString member.1) (h : ∀ member ∈ members, ValueText member.2)
      (hparts : List.Forall₂ (fun member part => MemberText member.1 member.2 part) members parts)
      (hbody : Joined parts body) : ValueText ('{' :: body ++ ['}'])

inductive OptionalText : Option String → List Char → Prop
  | null : OptionalText none ['n', 'u', 'l', 'l']
  | some {s : String} {text : List Char} (h : StringText s text) : OptionalText (some s) text

/-- The text of a list, given those of its items. -/
inductive ListText {α : Type} (spell : α → List Char → Prop) (items : List α) : List Char → Prop
  | array {parts : List (List Char)} {body : List Char} (hparts : List.Forall₂ spell items parts)
      (hbody : Joined parts body) : ListText spell items ('[' :: body ++ [']'])

structure Member (σ : Type) where
  key : String
  /-- The second structure with the member of the first. -/
  copy : σ → σ → σ
  /-- The texts of the member. -/
  spell : σ → List Char → Prop
  /-- Whether the member may be left out. -/
  omissible : σ → Prop

/-- The member of the given key that `get` takes out and `put` enters. -/
def member {σ α : Type} (key : String) (get : σ → α) (put : α → σ → σ) (spell : α → List Char → Prop)
    (omissible : α → Prop) : Member σ :=
  ⟨key, fun value => put (get value), fun value => spell (get value), fun value => omissible (get value)⟩

section Structures
variable {σ : Type}

/-- Texts with their keys say what the members of a structure are. A member stands once, or not at all if it
may be left out; any other key has any value, and may stand more than once. -/
structure Fits (members : List (Member σ)) (value : σ) (entries : List (String × List Char)) : Prop where
  known : ∀ entry ∈ entries, ∀ member ∈ members, member.key = entry.1 → member.spell value entry.2
  unknown : ∀ entry ∈ entries, (∀ member ∈ members, member.key ≠ entry.1) → ValueText entry.2
  once : entries.Pairwise fun first second => ∀ member ∈ members, member.key = first.1 →
    member.key ≠ second.1
  complete : ∀ member ∈ members, member.omissible value ∨ ∃ entry ∈ entries, entry.1 = member.key

/-- The text of a key with its value. -/
def EntryText (entry : String × List Char) (part : List Char) : Prop :=
  ∃ key, StringText entry.1 key ∧ MemberText key entry.2 part

/-- The text of a structure with its members by key, in any order. -/
inductive ObjectText (members : List (Member σ)) (value : σ) : List Char → Prop
  | object {entries : List (String × List Char)} {parts : List (List Char)} {body : List Char}
      (h : Fits members value entries) (hparts : List.Forall₂ EntryText entries parts)
      (hbody : Joined parts body) : ObjectText members value ('{' :: body ++ ['}'])

/-- The text of a structure with its members in their order, less some at the end that may be left out. -/
inductive RowText (members : List (Member σ)) (value : σ) : List Char → Prop
  | row {shown left : List (Member σ)} {parts : List (List Char)} {body : List Char}
      (hmembers : members = shown ++ left) (hleft : ∀ member ∈ left, member.omissible value)
      (hparts : List.Forall₂ (fun member part => member.spell value part) shown parts)
      (hbody : Joined parts body) : RowText members value ('[' :: body ++ [']'])

def StructureText (members : List (Member σ)) (value : σ) (text : List Char) : Prop :=
  ObjectText members value text ∨ RowText members value text

end Structures

end RecordAccess.Json
