import RecordAccess.Command.Decision
import RecordAccess.Command.Run

/-!
# The program

Looks at what a command needs to see, has it decided, and carries the decision out. No other program is
run, so a format on request finds none.
-/
namespace RecordAccess.Program

/-- The number of an error, which the system may have given with a minus sign, in 32 bits. -/
def errorNumber (number : UInt32) : Nat :=
  if number < 0x80000000 then number.toNat else (0 - number).toNat

/-- The refusal that an error of the system tells. -/
def faultOf : IO.Error → HostFault
  | .noFileOrDirectory _ number reason | .alreadyExists _ number reason
  | .inappropriateType _ number reason | .permissionDenied _ number reason
  | .invalidArgument _ number reason | .resourceExhausted _ number reason
  | .noSuchThing _ number reason | .interrupted _ number reason
  | .otherError number reason | .resourceBusy number reason | .resourceVanished number reason
  | .unsupportedOperation number reason | .hardwareFault number reason
  | .unsatisfiedConstraints number reason | .illegalOperation number reason
  | .protocolError number reason | .timeExpired number reason =>
    HostFault.ofNumber (errorNumber number) reason
  | .unexpectedEof => .other 0 "unexpected end of file"
  | .userError reason => .other 0 reason

/-- What an action of the system comes to. -/
def attempt {α : Type} (action : IO α) : IO (Except HostFault α) := do
  match ← action.toBaseIO with
  | .ok value => return .ok value
  | .error e => return .error (faultOf e)

def kindAt (path : Path) : IO (Option FileKind) := do
  let place := (← IO.currentDir) / path.text
  match ← attempt place.metadata with
  | .error _ => return none
  | .ok metadata =>
    match metadata.type with
    | .dir => return some .directory
    | .file => return some .file
    | _ => return some .other

def textAt (path : Path) : IO (Except ReadFault String) := do
  match ← attempt (IO.FS.readBinFile path.text) with
  | .error fault => return .error (.host fault)
  | .ok bytes =>
    match Text.Utf8.decode bytes.toList with
    | .error _ => return .error .notText
    | .ok text => return .ok text

def look (path : Path) : IO Sighting := do
  return { path, kind? := ← kindAt path, text := ← textAt path }

/-- The names that lead to the working directory. -/
def workingNames : IO (List String) := do
  return (← IO.currentDir).components.filter (!·.isEmpty)

def environment : IO (List Config.Variable) := do
  match ← attempt (IO.FS.readBinFile "/proc/self/environ") with
  | .ok block => return Config.Variable.ofBlock block.toList
  | .error _ => return []

def makeDirectory (path : Path) : IO (Except HostFault Unit) := do
  match ← attempt (IO.FS.createDir path.text) with
  | .error fault => return if (← kindAt path) = some .directory then .ok () else .error fault
  | .ok _ => return .ok ()

/-- Makes the first of the directories, and those after it that are needed for that. -/
def makeDirectories : List Path → IO (Except HostFault Unit)
  | [] => return .ok ()
  | path :: outer => do
    match ← makeDirectory path with
    | .error .notFound =>
      match ← makeDirectories outer with
      | .ok _ => makeDirectory path
      | .error fault => return .error fault
    | result => return result

def carryOut (writing : Writing) : IO Outcome := do
  match ← makeDirectories (Path.parse writing.target).ancestors with
  | .error fault => return (Failure.ofDirectories fault).outcome
  | .ok _ =>
    match ← attempt (IO.FS.writeFile writing.target writing.text) with
    | .error fault => return (Failure.ofWriting writing.target fault).outcome
    | .ok _ => return writing.done

def run (command : Command) : IO Outcome := do
  let working ← workingNames
  let sightings ← (command.paths working).mapM look
  let host : Host := { view := .ofSightings working sightings, environment := ← environment }
  match command.decide host with
  | .finish outcome => return outcome
  | .write writing => carryOut writing

def unusable : Outcome where
  status := 2
  messages := "error: the command line cannot be used\n\nUsage: crudgen [-v] <generate|inspect> <RECORD> [OPTIONS]\n"

def report (outcome : Outcome) : IO UInt32 := do
  (← IO.getStdout).putStr outcome.output
  (← IO.getStderr).putStr outcome.messages
  return UInt32.ofNat outcome.status

end RecordAccess.Program

def main (words : List String) : IO UInt32 := do
  let outcome ← match RecordAccess.Invocation.parse words with
    | none => pure RecordAccess.Program.unusable
    | some .version => pure { status := 0, output := RecordAccess.versionText }
    | some (.command command) => RecordAccess.Program.run command
  RecordAccess.Program.report outcome
