import RecordAccess.Host.View

/-!
# File trees

A file tree is a whole file system: its root with everything below it, each thing known by the names that
lead to it. Most things are files and directories; a few are devices, which take texts and keep none.
Above the root there is only the root.
-/
namespace RecordAccess

/-- What becomes of a text that is written to a device. -/
inductive Device where
  /-- It is gone. -/
  | null
  /-- It does not fit. -/
  | full
  /-- It appears on the output of the run. -/
  | output
  /-- It appears among the messages of the run. -/
  | messages
  deriving DecidableEq, Repr

/-- What a tree holds at a place. -/
inductive TreeNode where
  /-- A file and its content, if that is text. -/
  | file (content : Option String)
  | directory
  | device (device : Device)
  deriving DecidableEq, Repr

def TreeNode.kind : TreeNode → FileKind
  | file _ => .file
  | directory => .directory
  | device _ => .other

/-- The places of a tree that hold something, the root aside. -/
structure FileTree where
  nodes : List (List String × TreeNode) := []
  deriving DecidableEq, Repr

namespace FileTree

def find? (tree : FileTree) (names : List String) : Option TreeNode :=
  if names.isEmpty then some .directory else tree.nodes.lookup names

def put (tree : FileTree) (names : List String) (node : TreeNode) : FileTree :=
  ⟨(names, node) :: tree.nodes.filter (·.1 ≠ names)⟩

/-- The tree with directories at a place and on the way to it. -/
def plantDirectory (tree : FileTree) (names : List String) : FileTree :=
  (List.range names.length).foldl (fun tree i =>
    let place := names.take (i + 1)
    if (tree.find? place).isSome then tree else tree.put place .directory) tree

/-- The tree with a node at a place and directories on the way to it. -/
def plant (tree : FileTree) (names : List String) (node : TreeNode) : FileTree :=
  (tree.plantDirectory names.dropLast).put names node

/-- The devices of a host. Nothing comes from its input. -/
def devices : FileTree :=
  [("null", .null), ("full", .full), ("stdin", .null), ("stdout", .output), ("stderr", .messages)].foldl
    (fun tree (name, device) => tree.plant ["dev", name] (.device device)) {}

/-- The place that a name leads to from a place, which has to be a directory. -/
def step (tree : FileTree) (place : List String) (name : String) : Except HostFault (List String) :=
  match tree.find? place with
  | none => .error .notFound
  | some .directory =>
    if name = "." then .ok place
    else if name = ".." then .ok place.dropLast
    else if name.utf8ByteSize ≤ Path.maxNameSize then .ok (place ++ [name])
    else .error .nameTooLong
  | some _ => .error .notADirectory

/-- The place that names lead to from a place. -/
def walk (tree : FileTree) (place : List String) : List String → Except HostFault (List String)
  | [] => .ok place
  | name :: rest =>
    match tree.step place name with
    | .error fault => .error fault
    | .ok place => tree.walk place rest

/-- The place that a path leads to from the working directory. Something has to stand on the way, but
not at the place itself. -/
def locate (tree : FileTree) (working : List String) (path : Path) :
    Except HostFault (List String) :=
  if path.text.utf8ByteSize ≤ Path.maxSize then
    tree.walk (if path.isAbsolute then [] else working) path.steps
  else .error .nameTooLong

def look (tree : FileTree) (working : List String) (path : Path) : Except HostFault TreeNode :=
  match tree.locate working path with
  | .error fault => .error fault
  | .ok names =>
    match tree.find? names with
    | none => .error .notFound
    | some .directory => .ok .directory
    | some node => if path.needsDirectory then .error .notADirectory else .ok node

def kind? (tree : FileTree) (working : List String) (path : Path) : Option FileKind :=
  match tree.look working path with
  | .error _ => none
  | .ok node => some node.kind

/-- The text of the file where a path leads. A device gives none. -/
def read (tree : FileTree) (working : List String) (path : Path) : Except ReadFault String :=
  match tree.look working path with
  | .error fault => .error (.host fault)
  | .ok .directory => .error (.host .isADirectory)
  | .ok (.file none) => .error .notText
  | .ok (.file (some text)) => .ok text
  | .ok (.device _) => .ok ""

/-- What a run sees from a directory of the tree. -/
def view (tree : FileTree) (working : List String) : View where
  kind? := tree.kind? working
  read := tree.read working
  working

def makeDirectory (tree : FileTree) (working : List String) (path : Path) :
    Except HostFault FileTree :=
  match tree.locate working path with
  | .error fault => .error fault
  | .ok names =>
    match tree.find? names with
    | some _ => .error .alreadyExists
    | none => .ok (tree.put names .directory)

/-- The tree as it is, if a directory stands where one could not be made. -/
def orStanding (tree : FileTree) (working : List String) (path : Path) (fault : HostFault) :
    Except HostFault FileTree :=
  if tree.kind? working path = some .directory then .ok tree else .error fault

/-- Makes the first of the directories unless it stands, and those after it that are needed for that:
the innermost directory stands first. -/
def makeDirectories (tree : FileTree) (working : List String) : List Path → Except HostFault FileTree
  | [] => .ok tree
  | path :: outer =>
    match tree.makeDirectory working path with
    | .ok tree => .ok tree
    | .error .notFound =>
      match tree.makeDirectories working outer with
      | .error fault => .error fault
      | .ok tree =>
        match tree.makeDirectory working path with
        | .ok tree => .ok tree
        | .error fault => tree.orStanding working path fault
    | .error fault => tree.orStanding working path fault

/-- Writes a text to the file where a path leads, and makes the file if nothing stands there. A path
that needs a directory is refused, whatever stands there; a device takes the text unless it is full. -/
def write (tree : FileTree) (working : List String) (path : Path) (text : String) :
    Except HostFault FileTree :=
  match tree.locate working path with
  | .error fault => .error fault
  | .ok names =>
    if path.needsDirectory then .error .isADirectory
    else
      match tree.find? names with
      | some .directory => .error .isADirectory
      | some (.device .full) => if text.isEmpty then .ok tree else .error .noSpaceLeft
      | some (.device _) => .ok tree
      | _ => .ok (tree.put names (.file (some text)))

/-- The files below a place that stood otherwise, or not at all, in an earlier tree, by the names that lead
to them from there, with their texts. -/
def changes (before : FileTree) (base : List String) (after : FileTree) : List (List String × String) :=
  after.nodes.filterMap fun (names, node) =>
    match node with
    | .file (some text) =>
      if base.isPrefixOf names && before.find? names ≠ some node then
        some (names.drop base.length, text)
      else none
    | _ => none

end FileTree
end RecordAccess
