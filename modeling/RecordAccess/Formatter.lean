import RecordAccess.Host.View
import RecordAccess.Source.Check
import RecordAccess.Text.Blank
import RecordAccess.Text.Utf8

/-!
# Formatters

A formatter is the last step of generation: it takes the assembled text and gives the final text or a
diagnostic. The checking formatter demands a package clause and balanced brackets and tidies the
layout. A filter is a program that reads the assembled text and writes the final text; its text counts only
if it ends well, otherwise what it says on its other channel is the diagnostic.
-/
namespace RecordAccess

/-- The last step: the final text, or why there is none. -/
abbrev Formatter := String → Except String String

namespace Formatter

def passthrough : Formatter := .ok

/-- The checked and tidied text, or its first fault. -/
def checkedText (s : List Char) : Except SourceFault (List Char) :=
  match Source.checkClause s with
  | .error fault => .error fault
  | .ok () =>
    match Source.checkBrackets s with
    | .error fault => .error fault
    | .ok () => .ok (Source.tidy s)

/-- Checks the text and tidies its layout. -/
def check : Formatter := fun source =>
  match checkedText source.toList with
  | .ok text => .ok (String.ofList text)
  | .error fault => .error fault.message

theorem check_eq_ok_iff {source text : String} : check source = .ok text ↔
    Source.checkClause source.toList = .ok () ∧ Source.checkBrackets source.toList = .ok () ∧
      text.toList = Source.tidy source.toList := by
  unfold check checkedText
  cases Source.checkClause source.toList with
  | error fault => simp
  | ok =>
    cases Source.checkBrackets source.toList with
    | error fault => simp
    | ok =>
      simp only [Except.ok.injEq, true_and]
      exact ⟨fun h => h ▸ String.toList_ofList, fun h => h ▸ String.ofList_toList⟩

end Formatter

inductive FilterRun where
  /-- The program was not started. -/
  | notStarted (fault : HostFault)
  /-- The program did not take its input. -/
  | unfed (fault : HostFault)
  /-- The program ended with a status, an output and diagnostics. -/
  | ended (status : Nat) (output diagnostics : List UInt8)
  deriving DecidableEq, Repr

/-- A program: the run that it makes of an input. -/
abbrev Filter := String → FilterRun

namespace Filter

def missing : Filter := fun _ => .notStarted .notFound

/-- The final text, or the diagnostic, of a run of the program of the given name. -/
def outcome (name : String) : FilterRun → Except String String
  | .notStarted fault => .error ("failed to run " ++ name ++ ": " ++ fault.message)
  | .unfed fault => .error ("failed to write to gofmt: " ++ fault.message)
  | .ended status output diagnostics =>
    if status = 0 then
      match Text.Utf8.decode output with
      | .ok text => .ok text
      | .error fault => .error ("gofmt output is not UTF-8: " ++ fault.message)
    else .error (Text.trimmed (Text.Utf8.readable diagnostics))

/-- Formats through the program of the given name. -/
def formatter (name : String) (filter : Filter) : Formatter := fun source => outcome name (filter source)

end Filter
end RecordAccess
