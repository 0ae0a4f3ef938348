import RecordAccess.Formatter
import RecordAccess.Fragment
import RecordAccess.Registry
import RecordAccess.Settings

/-!
# Generation

One run generates the functions of a record: the fields are classified, requests that cannot be
served are refused, the operations are rendered, and the parts are joined into one Go source unit
that goes through a formatter. Rendering in turn and rendering side by side differ only in the order
in which the registry serves the operations' tickets. A failure leaves no text behind.
-/
namespace RecordAccess

/-- A state between renderings: the roles, what the functions share, and the functions so far. -/
structure Session where
  roles : Roles
  registry : Registry := {}
  body : String := ""

/-- The session that starts with the roles of a classification. -/
def Session.start (record : Record) (overrides : Overrides) : Except GenerationError Session :=
  (Classification.classify record overrides).outcome.map fun roles => { roles }

/-- How an operation's requests reach the registry. -/
inductive Sink where
  /-- In order of arrival. -/
  | arrival
  /-- At the ranks of the operation at a position. -/
  | position (operation : Nat)
  deriving DecidableEq, Repr

/-- Serves requests through a sink, with the flags they get. -/
def Registry.serveThrough (registry : Registry) (sink : Sink) (requests : List Request) :
    List (Option Bool) × Registry :=
  match sink with
  | .arrival => registry.serveAll serveNext requests
  | .position operation => registry.serveAll serve (tickets operation requests)

/-- Renders an operation and appends its text to the body. -/
def Session.render (session : Session) (sink : Sink) (operation : Operation) :
    Except GenerationError (String × Session) :=
  let registry := (session.registry.serveThrough sink (Fragment.requests operation)).2
  match Fragment.render operation session.roles with
  | .ok text => .ok (text, { session with registry, body := session.body ++ text })
  | .error e => .error e

namespace SourceUnit

def clause (package : String) : String := "package " ++ package ++ "\n"

/-- The import block, one path a line; nothing if there are no paths. -/
def importBlock (paths : List String) : String :=
  if paths.isEmpty then ""
  else "\nimport (\n" ++ String.join (paths.map fun path => "\t\"" ++ path ++ "\"\n") ++ ")\n"

def assemble (package : String) (imports : List String) (header body : String) : String :=
  clause package ++ importBlock imports ++ header ++ body

end SourceUnit

def Session.concat (session : Session) (package : String) : String :=
  SourceUnit.assemble package session.registry.imports session.registry.header session.body

structure GeneratedSource where
  package : String
  /-- The record type that the functions serve. -/
  record : String
  text : String
  /-- The import paths, ascending. -/
  imports : List String
  declarations : List Declaration
  deriving DecidableEq, Repr

/-- The formatted source unit of a session. -/
def Session.assemble (session : Session) (formatter : Formatter) (package : String) :
    Except GenerationError GeneratedSource :=
  match formatter (session.concat package) with
  | .error diagnostic => .error (.format diagnostic)
  | .ok text => .ok {
      package
      record := session.roles.model
      text
      imports := session.registry.imports
      declarations := session.registry.declarations }

structure RecordSource where
  package : String
  existing : List String := []
  lookup : String → Except GenerationError Record

structure Generator where
  settings : Settings
  formatter : Option Formatter := none

namespace Generator

def finalStep (generator : Generator) : Formatter :=
  match generator.formatter with
  | some formatter => formatter
  | none =>
    match generator.settings.format with
    | .check => Formatter.check
    | .none => Formatter.passthrough

/-- Refuses operations that the roles cannot serve. -/
def permit (roles : Roles) (operations : List Operation) : Except GenerationError Unit :=
  if roles.primary.isNone && operations.any Operation.needsPrimary then
    .error (.missingPrimaryField roles.model)
  else if roles.write.isEmpty && operations.contains .update then
    .error (.emptyWriteSet roles.model)
  else .ok ()

/-- The texts of operations, joined in order. -/
def renderBody (roles : Roles) : List Operation → Except GenerationError String
  | [] => .ok ""
  | operation :: rest =>
    match Fragment.render operation roles with
    | .error e => .error e
    | .ok text =>
      match renderBody roles rest with
      | .error e => .error e
      | .ok body => .ok (text ++ body)

def ticketRows (operations : List Operation) : List (List Ticket) :=
  Schedule.rows (operations.map Fragment.requests)

/-- The order in which a run serves the tickets of its operations. -/
def schedule (settings : Settings) (operations : List Operation) : List Ticket :=
  if settings.parallel then Schedule.roundRobin (ticketRows operations)
  else Schedule.inTurn (ticketRows operations)

/-- The session after rendering operations while the registry serves their tickets in the order of a
schedule. -/
def renderUnder (schedule : List Ticket) (registry : Registry) (roles : Roles)
    (operations : List Operation) : Except GenerationError Session :=
  match renderBody roles operations with
  | .error e => .error e
  | .ok body => .ok { roles, registry := registry.run schedule, body }

/-- The run after classification, its tickets served in the order of a schedule. -/
def finishUnder (generator : Generator) (schedule : List Ticket) (registry : Registry)
    (package : String) (roles : Roles) : Except GenerationError GeneratedSource :=
  let operations := generator.settings.uniqueOperations
  match permit roles operations with
  | .error e => .error e
  | .ok () =>
    match renderUnder schedule registry roles operations with
    | .error e => .error e
    | .ok session => session.assemble generator.finalStep package

/-- The order in which a run serves the tickets of its operations by itself. -/
def ownSchedule (generator : Generator) : List Ticket :=
  schedule generator.settings generator.settings.uniqueOperations

/-- One run over a record, its tickets served in the order of a schedule. -/
def runUnder (generator : Generator) (schedule : List Ticket) (record : Record) (package : String)
    (registry : Registry) : Reported GeneratedSource :=
  let classified := Classification.classify record generator.settings.overrides
  match classified.outcome with
  | .error e => ⟨.error e, classified.dropped⟩
  | .ok roles => ⟨generator.finishUnder schedule registry package roles, classified.dropped⟩

/-- Generates the functions of a record into a package that declares nothing yet, under a schedule. -/
def generateUnder (generator : Generator) (schedule : List Ticket) (record : Record)
    (package : String) : Reported GeneratedSource :=
  generator.runUnder schedule record (generator.settings.package.getD package) {}

/-- Generates the functions of a record into a package that declares nothing yet. -/
def generate (generator : Generator) (record : Record) (package : String) :
    Reported GeneratedSource :=
  generator.generateUnder generator.ownSchedule record package

/-- Generates the functions of the record that a source knows by a name, under a schedule. -/
def generateFromUnder (generator : Generator) (schedule : List Ticket) (source : RecordSource)
    (name : String) : Reported GeneratedSource :=
  match source.lookup name with
  | .error e => ⟨.error e, []⟩
  | .ok record =>
    generator.runUnder schedule record (generator.settings.package.getD source.package)
      (Registry.ofExisting source.existing)

/-- Generates the functions of the record that a source knows by a name. -/
def generateFrom (generator : Generator) (source : RecordSource) (name : String) :
    Reported GeneratedSource :=
  generator.generateFromUnder generator.ownSchedule source name

end Generator
end RecordAccess
