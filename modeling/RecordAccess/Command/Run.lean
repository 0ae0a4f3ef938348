import RecordAccess.Command.Decision
import RecordAccess.Command.Line
import RecordAccess.Host.Tree

/-!
# Runs over a file tree

A command is run in a directory of a file tree: it is decided from what it sees there, and a text to
write goes into the tree, the directories on the way being made first.
-/
namespace RecordAccess

def Failure.ofDirectories (fault : HostFault) : Failure :=
  ⟨"Failed to create output directory", [fault.message]⟩

def Failure.ofWriting (path : String) (fault : HostFault) : Failure :=
  ⟨"Failed to write " ++ path, [fault.message]⟩

/-- The outcome of a run with a text that appears on its channels, if it was written to one of them. -/
def FileTree.echo (tree : FileTree) (working : List String) (path : Path) (text : String)
    (outcome : Outcome) : Outcome :=
  match tree.look working path with
  | .ok (.device .output) => { outcome with output := text ++ outcome.output }
  | .ok (.device .messages) => { outcome with messages := text ++ outcome.messages }
  | _ => outcome

/-- Writes a text into a tree, and the outcome of that. -/
def FileTree.carryOut (tree : FileTree) (working : List String) (writing : Writing) :
    Outcome × FileTree :=
  let path := Path.parse writing.target
  match tree.makeDirectories working path.ancestors with
  | .error fault => ((Failure.ofDirectories fault).outcome, tree)
  | .ok prepared =>
    match prepared.write working path writing.text with
    | .error fault => ((Failure.ofWriting writing.target fault).outcome, prepared)
    | .ok written => (prepared.echo working path writing.text writing.done, written)

def Command.run (command : Command) (tree : FileTree) (working : List String)
    (environment : List Config.Variable) : Outcome × FileTree :=
  match command.decide { view := tree.view working, environment } with
  | .finish outcome => (outcome, tree)
  | .write writing => tree.carryOut working writing

def versionText : String := "crudgen 0.1.0\n"

def Invocation.run (invocation : Invocation) (tree : FileTree) (working : List String)
    (environment : List Config.Variable) : Outcome × FileTree :=
  match invocation with
  | .version => ({ status := 0, output := versionText }, tree)
  | .command given => given.run tree working environment

end RecordAccess
