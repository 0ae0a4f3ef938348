/-!
# What a run sees

A path leads by names from the working directory, or from the root of the file system, to a file or a
directory. A dot stays where it is and two dots lead up. A run looks at the file system before it changes
anything: it asks what stands at a path and reads files as text. The host system may refuse that, and gives
a number with its reason.
-/
namespace RecordAccess

structure Path where
  isAbsolute : Bool
  /-- The names between the slashes, dots among them. -/
  steps : List String
  /-- Whether only a directory can be meant: a slash or a dot comes last. -/
  needsDirectory : Bool
  deriving DecidableEq, Repr

namespace Path

def parse (text : String) : Path :=
  let s := text.toList
  { isAbsolute := s.head? == some '/'
    steps := ((s.splitOn '/').filter (!·.isEmpty)).map String.ofList
    needsDirectory := (s.splitOn '/').getLast?.any fun last => last.isEmpty || last == ['.'] }

/-- The names of a path without those that stay where they are. -/
def names (path : Path) : List String := path.steps.filter (· ≠ ".")

def ofNames (isAbsolute : Bool) (names : List String) : Path := ⟨isAbsolute, names, false⟩

/-- The directories that the path goes through, the innermost first. -/
def ancestors (path : Path) : List Path :=
  let outer := path.names.dropLast
  (List.range outer.length).reverse.map fun i => ofNames path.isAbsolute (outer.take (i + 1))

def text (path : Path) : String :=
  (if path.isAbsolute then "/" else "") ++ String.intercalate "/" path.steps ++
    (if path.needsDirectory && !path.steps.isEmpty then "/" else "")

def maxSize : Nat := 4095

def maxNameSize : Nat := 255

/-- The steps from the directory of the first names to where the second names lead. -/
def stepsBetween : List String → List String → List String
  | here :: base, name :: names =>
    if here = name then stepsBetween base names
    else List.replicate (base.length + 1) ".." ++ name :: names
  | base, names => List.replicate base.length ".." ++ names

/-- The path that leads from a directory to where a path leads that is not absolute and starts `count`
levels above that directory. -/
def lifted (path : Path) (working : List String) (count : Nat) : Path :=
  { path with steps := stepsBetween working (working.take (working.length - count) ++ path.names) }

end Path

inductive HostFault where
  | notFound
  | alreadyExists
  | notADirectory
  | isADirectory
  | noSpaceLeft
  | brokenPipe
  | nameTooLong
  /-- Any other refusal, by the number and the reason that the system gives. -/
  | other (number : Nat) (reason : String)
  deriving DecidableEq, Repr

/-- The refusal of a number, for which the system gives a reason. -/
def HostFault.ofNumber (number : Nat) (reason : String) : HostFault :=
  match number with
  | 2 => notFound
  | 17 => alreadyExists
  | 20 => notADirectory
  | 21 => isADirectory
  | 28 => noSpaceLeft
  | 32 => brokenPipe
  | 36 => nameTooLong
  | _ => other number reason

def HostFault.message : HostFault → String
  | notFound => "No such file or directory (os error 2)"
  | alreadyExists => "File exists (os error 17)"
  | notADirectory => "Not a directory (os error 20)"
  | isADirectory => "Is a directory (os error 21)"
  | noSpaceLeft => "No space left on device (os error 28)"
  | brokenPipe => "Broken pipe (os error 32)"
  | nameTooLong => "File name too long (os error 36)"
  | other number reason => reason ++ " (os error " ++ toString number ++ ")"

inductive FileKind where
  | file
  | directory
  /-- Something that can be opened but keeps no text, such as a device. -/
  | other
  deriving DecidableEq, Repr

inductive ReadFault where
  | host (fault : HostFault)
  | notText
  deriving DecidableEq, Repr

def ReadFault.message : ReadFault → String
  | host fault => fault.message
  | notText => "stream did not contain valid UTF-8"

structure View where
  /-- What stands at a path. -/
  kind? : Path → Option FileKind
  /-- The text of the file at a path. -/
  read : Path → Except ReadFault String
  /-- The names that lead to the working directory. -/
  working : List String

structure Sighting where
  path : Path
  kind? : Option FileKind
  text : Except ReadFault String

/-- The view of what was seen; nothing stands at other paths. -/
def View.ofSightings (working : List String) (sightings : List Sighting) : View where
  kind? path := (sightings.find? fun sighting => sighting.path = path).bind Sighting.kind?
  read path := ((sightings.find? fun sighting => sighting.path = path).map Sighting.text).getD
    (.error (.host .notFound))
  working

end RecordAccess
