import RecordAccess.Command.Arguments
import RecordAccess.Config.Load
import RecordAccess.Description
import RecordAccess.Diff.Compact
import RecordAccess.Formatter
import RecordAccess.Json.Fault
import RecordAccess.Manifest
import RecordAccess.Roles

/-!
# Decisions

A command is decided before anything is changed: from what it sees it finds either the outcome at once,
or a text to write and the outcome that follows if that works. Every failure of loading, reading,
classifying and generating is found before that, so it leaves no trace.

An outcome is what a run of the program leaves on its channels. A failure is told with its causes, each on
lines of its own; several causes are numbered, outermost first.
-/
namespace RecordAccess

structure Outcome where
  status : Nat
  output : String := ""
  messages : String := ""
  deriving DecidableEq, Repr

/-- The outcome of a run that breaks down over a problem after it printed a text. What the system adds to
the message, about the place and the thread, is left out. -/
def Outcome.brokenDown (output problem : String) : Outcome where
  status := 101
  output
  messages := problem ++ "\n"

structure Failure where
  message : String
  causes : List String := []
  deriving DecidableEq, Repr

namespace Failure

/-- A text whose lines after the first start with a margin. -/
def indented (margin text : String) : String :=
  String.intercalate ("\n" ++ margin) ((text.toList.splitOn '\n').map String.ofList)

/-- The line of a cause, with its number if there are several. -/
def causeLine (isNumbered : Bool) (number : Nat) (cause : String) : String :=
  if isNumbered then
    let digits := toString number
    String.ofList (List.replicate (5 - digits.length) ' ') ++ digits ++ ": " ++
      indented "       " cause
  else "    " ++ indented "    " cause

def text (failure : Failure) : String :=
  let lines := failure.causes.zipIdx.map fun (cause, i) =>
    "\n" ++ causeLine (1 < failure.causes.length) i cause
  failure.message ++ if lines.isEmpty then "" else "\n\nCaused by:" ++ String.join lines

/-- The outcome of a run that fails. -/
def outcome (failure : Failure) : Outcome where
  status := 1
  messages := "Error: " ++ failure.text ++ "\n"

end Failure

structure Host where
  view : View
  environment : List Config.Variable
  /-- The program that formats on request. -/
  gofmt : Filter := Filter.missing

structure Writing where
  /-- The path as it was given. -/
  target : String
  text : String
  /-- The outcome if the text was written. -/
  done : Outcome
  deriving DecidableEq, Repr

inductive Decision where
  | finish (outcome : Outcome)
  | write (writing : Writing)
  deriving DecidableEq, Repr

namespace Arguments

def settings (arguments : Arguments) (host : Host) : Except Failure Settings :=
  match Config.load host.view host.environment (arguments.config.map Path.parse) with
  | .ok settings => .ok (arguments.overrule settings)
  | .error e =>
    let tried := match arguments.config with
      | some path => "Failed to load config: " ++ path
      | none => "Failed to load configuration"
    .error ⟨tried, [e.message, e.cause]⟩

/-- The failure of reading a manifest text at a stop. -/
def manifestFailure (path text : String) (stop : Json.Stop) : Failure :=
  let place := (Json.placeOf text.toList stop.rest).message
  let cause := match stop.problem with
    | .malformed => "malformed JSON" ++ place
    | .endOfText => "EOF while parsing" ++ place
    | .misfit cause => cause.message ++ place
  ⟨"Invalid manifest: " ++ path, ["manifest error: " ++ cause, cause]⟩

/-- The manifest at a path. -/
def readManifest (host : Host) (path : String) : Except Failure Manifest :=
  match host.view.read (Path.parse path) with
  | .error fault => .error ⟨"Failed to read manifest: " ++ path, [fault.message]⟩
  | .ok text =>
    match Manifest.parse text with
    | .error stop => .error (manifestFailure path text stop)
    | .ok manifest => .ok manifest

def description (arguments : Arguments) (host : Host) : Except Failure Description :=
  match arguments.manifest with
  | some path => Description.manifest <$> readManifest host path
  | none =>
    match Description.ofFields arguments.record arguments.fields with
    | .error e => .error ⟨e.message, []⟩
    | .ok description => .ok description

/-- The name of the record, without blanks around it. -/
def name (arguments : Arguments) : String := Text.trimmed arguments.record

end Arguments

/-- The operations of words, of which all have to be understood. -/
def parseOperations : List String → Except GenerationError (List Operation)
  | [] => .ok []
  | word :: rest =>
    match Operation.parse word with
    | .error e => .error e
    | .ok operation =>
      match parseOperations rest with
      | .error e => .error e
      | .ok operations => .ok (operation :: operations)

namespace GenerateOptions

/-- The settings as the options of generating overrule them. -/
def overrule (options : GenerateOptions) (settings : Settings) : Except GenerationError Settings :=
  let parallel := settings.parallel || options.parallel
  if options.operations.isEmpty then .ok { settings with parallel }
  else
    match parseOperations options.operations with
    | .error e => .error e
    | .ok operations => .ok { settings with operations, parallel }

def generator (options : GenerateOptions) (host : Host) (settings : Settings) : Generator where
  settings
  formatter := if options.gofmt then some (Filter.formatter "gofmt" host.gofmt) else none

end GenerateOptions

structure Generated where
  source : GeneratedSource
  settings : Settings

def generated (arguments : Arguments) (options : GenerateOptions) (host : Host) :
    Except Failure Generated := do
  let settings ← arguments.settings host
  let settings ←
    match options.overrule settings with
    | .ok settings => .ok settings
    | .error e => .error ⟨e.message, []⟩
  let description ← arguments.description host
  let failed (cause : String) : Failure :=
    ⟨"Failed to generate CRUD functions for " ++ arguments.name, [cause]⟩
  match description.generate (options.generator host settings) arguments.name with
  | .error e => .error (failed e.message)
  | .ok run =>
    match run.outcome with
    | .error e => .error (failed e.message)
    | .ok source => .ok ⟨source, settings⟩

/-- The outcome of comparing a text with the file at a path. A file that is not there counts as
empty. -/
def compare (view : View) (path text : String) : Outcome :=
  let current : Except ReadFault String :=
    match view.read (Path.parse path) with
    | .error (.host .notFound) => .ok ""
    | other => other
  match current with
  | .error fault => Failure.outcome ⟨"Failed to read " ++ path, [fault.message]⟩
  | .ok current =>
    if current = text then { status := 0, messages := path ++ " is up to date\n" }
    else { status := 2, output := Diff.report current text, messages := path ++ " is out of date\n" }

def wroteMessage (generated : Generated) (path : String) : String :=
  "Wrote " ++ generated.source.record ++ " (" ++
    toString generated.settings.uniqueOperations.length ++ " functions) to " ++ path ++ "\n"

/-- What becomes of a generated source. -/
def deliver (options : GenerateOptions) (view : View) (generated : Generated) : Decision :=
  match options.output with
  | none => .finish { status := 0, output := generated.source.text }
  | some path =>
    if options.check then .finish (compare view path generated.source.text)
    else .write {
      target := path
      text := generated.source.text
      done := { status := 0, messages := wroteMessage generated path } }

/-- The outcome of reporting a record's roles. The heading is printed first, so it stands there too when the
table under it cannot be made and the run breaks down. -/
def inspection (roles : Roles) : Outcome :=
  let heading := "\nRecord " ++ roles.model ++ " (table " ++ roles.table ++ ")\n\n"
  match roles.lines with
  | some lines =>
    { status := 0, output := heading ++ String.join (lines.map fun line => "  " ++ line ++ "\n") ++ "\n" }
  | none => Outcome.brokenDown heading "Formatting argument out of range"

def inspected (arguments : Arguments) (host : Host) : Except Failure Roles := do
  let settings ← arguments.settings host
  let description ← arguments.description host
  let classified : Except GenerationError Roles := do
    let record ← description.record arguments.name
    (Classification.classify record settings.overrides).outcome
  match classified with
  | .error e => .error ⟨e.message, []⟩
  | .ok roles => .ok roles

def Command.decide (host : Host) : Command → Decision
  | generate arguments options =>
    match generated arguments options host with
    | .error failure => .finish failure.outcome
    | .ok generated => deliver options host.view generated
  | inspect arguments =>
    match inspected arguments host with
    | .error failure => .finish failure.outcome
    | .ok roles => .finish (inspection roles)

/-! ## What a command looks at

The paths that a command may ask about are known from its arguments, so a view of just these is enough
to decide it. -/

/-- The paths of configuration files that may count; `working` are the names that lead to the working
directory. -/
def Arguments.configPaths (working : List String) (arguments : Arguments) : List Path :=
  match arguments.config with
  | some path => Config.candidates working (Path.parse path)
  | none => Config.usualFile :: Config.candidates working Config.usualFile

/-- The path of a file that is only compared with. -/
def GenerateOptions.comparedPath? (options : GenerateOptions) : Option Path :=
  if options.check then options.output.map Path.parse else none

/-- The paths that a command may look at. -/
def Command.paths (working : List String) (command : Command) : List Path :=
  let arguments := command.arguments
  let compared := match command with
    | .generate _ options => options.comparedPath?.toList
    | .inspect _ => []
  arguments.configPaths working ++ (arguments.manifest.map Path.parse).toList ++ compared

end RecordAccess
