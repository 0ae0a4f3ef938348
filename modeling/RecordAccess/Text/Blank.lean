/-!
# Blanks and lines

A blank is a character with the Unicode property `White_Space`: twenty-five code points, the
no-break spaces among them, the zero-width space not. Trimming removes blanks from one or both ends
of a text and nothing else.

A line ends at a line feed, and a carriage return right before that line feed belongs to the line
break. What follows the last line feed is a line only if it is not empty; it has no line break, so a
carriage return at its end is part of it.
-/
namespace RecordAccess.Text

/-- The code points with the property `White_Space`. -/
def isBlank (c : Char) : Bool :=
  let n := c.toNat
  (9 ≤ n && n ≤ 13) || n == 32 || n == 0x85 || n == 0xA0 || n == 0x1680 ||
    (0x2000 ≤ n && n ≤ 0x200A) || n == 0x2028 || n == 0x2029 || n == 0x202F || n == 0x205F ||
    n == 0x3000

def trimStart (s : List Char) : List Char := s.dropWhile isBlank

def trimEnd (s : List Char) : List Char := (s.reverse.dropWhile isBlank).reverse

def trim (s : List Char) : List Char := trimEnd (trimStart s)

def trimmed (s : String) : String := String.ofList (trim s.toList)

@[simp] theorem toList_trimmed (s : String) : (trimmed s).toList = trim s.toList := by
  simp [trimmed]

@[simp] theorem trim_nil : trim [] = [] := rfl

/-- Removes one carriage return from the end. -/
def dropReturn (line : List Char) : List Char :=
  match line.getLast? with
  | some '\r' => line.dropLast
  | _ => line

/-- The lines of a text, given its pieces between line feeds. -/
def linesOfPieces : List (List Char) → List (List Char)
  | [] => []
  | [last] => if last.isEmpty then [] else [last]
  | piece :: next :: rest => dropReturn piece :: linesOfPieces (next :: rest)

/-- The lines of a text, without their line breaks. -/
def lines (s : List Char) : List (List Char) := linesOfPieces (s.splitOn '\n')

@[simp] theorem lines_nil : lines [] = [] := rfl

end RecordAccess.Text
