import RecordAccess.Text.Blank
import RecordAccess.Text.Letters

/-!
# Checks of a source text

One pass checks that the brackets of a Go text balance. Brackets count in code only, not in comments and
literals. A string or rune literal ends at its quote and may not span lines, but a backslash takes the
character after it whatever it is, and a line feed taken so is neither an end of line nor counted as one. A
raw string runs from backquote to backquote, a block comment to the first star and slash after its start.
Lines are counted from one.

A tidy text has no blanks at the ends of its lines, no empty lines at either end, never two empty
lines in a row, and exactly one line feed after its last line. The first line of a Go text that is neither
blank nor a line comment has to name the package, and the name has to be an identifier.
-/
namespace RecordAccess

inductive SourceFault where
  /-- The first line that is neither blank nor a comment is no package clause. -/
  | noPackageClause
  /-- The package clause names something that is no identifier. -/
  | invalidPackageName (name : String)
  /-- A closing bracket meets an opening bracket of another kind. -/
  | mismatch (line : Nat) (closer opener : Char) (opened : Nat)
  /-- A closing bracket meets no opening bracket. -/
  | unmatched (line : Nat) (closer : Char)
  /-- A line ends inside a literal that cannot span lines. -/
  | cutLiteral (line : Nat)
  | openLiteral
  | openComment
  /-- The text ends before a bracket is closed. -/
  | neverClosed (opener : Char) (opened : Nat)
  deriving DecidableEq, Repr

namespace SourceFault

/-- A character between single quotes. -/
def shown (c : Char) : String := "'" ++ String.singleton c ++ "'"

def message : SourceFault → String
  | noPackageClause => "expected 'package' clause"
  | invalidPackageName name => "invalid package name '" ++ name ++ "'"
  | mismatch line closer opener opened =>
    "line " ++ toString line ++ ": " ++ shown closer ++ " closes " ++ shown opener ++
      " opened on line " ++ toString opened
  | unmatched line closer => "line " ++ toString line ++ ": unmatched " ++ shown closer
  | cutLiteral line => "line " ++ toString line ++ ": unterminated literal"
  | openLiteral => "unterminated literal at end of file"
  | openComment => "unterminated block comment"
  | neverClosed opener opened =>
    shown opener ++ " opened on line " ++ toString opened ++ " is never closed"

end SourceFault
namespace Source

/-- How a character is to be read. -/
inductive Mode where
  | code
  | lineComment
  /-- The star that starts a block comment, its slash having been read. -/
  | commentStart
  | blockComment
  /-- The slash that ends a block comment, its star having been read. -/
  | commentEnd
  /-- A literal on one line, until the given quote. -/
  | literal (quote : Char)
  /-- The character that a backslash takes in such a literal. -/
  | escaped (quote : Char)
  | raw
  deriving DecidableEq, Repr

/-- The double quote, which bounds an interpreted string. -/
def doubleQuote : Char := '\x22'

/-- The single quote, which bounds a rune. -/
def singleQuote : Char := '\x27'

/-- The backquote, which bounds a raw string. -/
def backquote : Char := '\x60'

def closerOf? : Char → Option Char
  | '(' => some ')'
  | '[' => some ']'
  | '\x7b' => some '\x7d'
  | _ => none

def isOpener (c : Char) : Bool := c == '(' || c == '[' || c == '\x7b'

def isCloser (c : Char) : Bool := c == ')' || c == ']' || c == '\x7d'

structure Opened where
  bracket : Char
  line : Nat
  deriving DecidableEq, Repr

/-- What is left to say at the end of the text. -/
def atEnd (mode : Mode) (opened : List Opened) : Except SourceFault Unit :=
  match mode with
  | .literal _ | .escaped _ | .raw => .error .openLiteral
  | .commentStart | .blockComment => .error .openComment
  | .code | .lineComment | .commentEnd =>
    match opened with
    | [] => .ok ()
    | last :: _ => .error (.neverClosed last.bracket last.line)

/-- The open brackets after a closing one on the given line. -/
def close (opened : List Opened) (line : Nat) (closer : Char) : Except SourceFault (List Opened) :=
  match opened with
  | [] => .error (.unmatched line closer)
  | last :: rest =>
    if closerOf? last.bracket = some closer then .ok rest
    else .error (.mismatch line closer last.bracket last.line)

/-- The mode after a character, given the character that follows it. -/
def Mode.after (mode : Mode) (c : Char) (next : Option Char) : Mode :=
  match mode with
  | .code =>
    if c = '/' ∧ next = some '/' then .lineComment
    else if c = '/' ∧ next = some '*' then .commentStart
    else if c = doubleQuote ∨ c = singleQuote then .literal c
    else if c = backquote then .raw
    else .code
  | .lineComment => if c = '\n' then .code else .lineComment
  | .commentStart => .blockComment
  | .blockComment => if c = '*' ∧ next = some '/' then .commentEnd else .blockComment
  | .commentEnd => .code
  | .literal quote =>
    if c = '\\' then .escaped quote else if c = quote then .code else .literal quote
  | .escaped quote => .literal quote
  | .raw => if c = backquote then .code else .raw

/-- The line after a character. A character that a backslash takes starts no line. -/
def Mode.lineAfter (mode : Mode) (line : Nat) (c : Char) : Nat :=
  match mode with
  | .escaped _ => line
  | .code | .lineComment | .commentStart | .blockComment | .commentEnd | .literal _ | .raw =>
    if c = '\n' then line + 1 else line

/-- Whether the character ends a line inside a literal that cannot span lines. -/
def Mode.isCutBy (mode : Mode) (c : Char) : Bool :=
  match mode with
  | .literal _ => c == '\n'
  | .code | .lineComment | .commentStart | .blockComment | .commentEnd | .escaped _ | .raw => false

/-- Checks the rest of a text, given where it starts: the mode, the open brackets, the last one
first, and the line. -/
def balance (mode : Mode) (opened : List Opened) (line : Nat) : List Char → Except SourceFault Unit
  | [] => atEnd mode opened
  | c :: rest =>
    if mode.isCutBy c then .error (.cutLiteral line)
    else if mode = .code ∧ isOpener c then balance .code (⟨c, line⟩ :: opened) line rest
    else if mode = .code ∧ isCloser c then
      match close opened line c with
      | .error fault => .error fault
      | .ok opened => balance .code opened line rest
    else balance (mode.after c rest.head?) opened (mode.lineAfter line c) rest

def checkBrackets (s : List Char) : Except SourceFault Unit := balance .code [] 1 s

open Text

/-- Keeps one of each run of empty lines. -/
def squeeze : List (List Char) → List (List Char)
  | [] => []
  | [] :: [] :: rest => squeeze ([] :: rest)
  | line :: rest => line :: squeeze rest

def unlines (rows : List (List Char)) : List Char := rows.flatMap fun line => line ++ ['\n']

def tidyLines (s : List Char) : List (List Char) := squeeze ((lines (trim s)).map trimEnd)

def tidy (s : List Char) : List Char := unlines (tidyLines s)

/-- The word of a package clause, with the space after it. -/
def packageWord : List Char := "package ".toList

/-- Whether a line without surrounding blanks says something. -/
def isTelling (line : List Char) : Bool :=
  !line.isEmpty && !(['/', '/'].isPrefixOf line)

/-- The first line that says something, without surrounding blanks; empty if there is none. -/
def firstTelling (s : List Char) : List Char := (((lines s).map trim).find? isTelling).getD []

def checkClause (s : List Char) : Except SourceFault Unit :=
  let line := firstTelling s
  if packageWord.isPrefixOf line then
    let name := trim (line.drop packageWord.length)
    if isIdentifier name then .ok () else .error (.invalidPackageName (String.ofList name))
  else .error .noPackageClause

end Source
end RecordAccess
