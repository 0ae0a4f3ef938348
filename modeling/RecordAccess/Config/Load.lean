import RecordAccess.Config.Variable
import RecordAccess.Host.View
import RecordAccess.Toml.Document

/-!
# Loading settings

Settings come from a configuration file, if there is one, and from the environment, which wins over the
file. A file that is named by a path from the working directory is also looked for from the directories
above it. Without a name the usual file is taken, if something of that name stands in the working
directory.
-/
namespace RecordAccess.Config

def usualFile : Path := Path.ofNames false ["crudgen.toml"]

/-- The places at which a file is looked for, the nearest first; `working` are the names that lead to the
working directory. -/
def candidates (working : List String) (path : Path) : List Path :=
  if path.isAbsolute then [path] else (List.range (working.length + 1)).map (path.lifted working)

def findFile (view : View) (path : Path) : Option Path :=
  (candidates view.working path).find? fun candidate => view.kind? candidate == some .file

def readLayer (view : View) (path : Path) : Except LoadError Layer :=
  match view.read path with
  | .error fault => .error (.unread path.text fault)
  | .ok text =>
    match Toml.parse text with
    | none => .error (.malformed path.text)
    | some entries => .ok ⟨.file path.text, entries⟩

/-- The layer of the file that a path names; no layer if there is none. -/
def fileLayers (view : View) (path : Path) : Except LoadError (List Layer) :=
  match findFile view path with
  | none => .ok []
  | some found =>
    match readLayer view found with
    | .error e => .error e
    | .ok layer => .ok [layer]

/-- The layers of a run: the file of the given name, or the usual one, and the environment. -/
def layers (view : View) (environment : List Variable) (path? : Option Path) :
    Except LoadError (List Layer) :=
  let path? := path?.or (if (view.kind? usualFile).isSome then some usualFile else none)
  match path?.elim (.ok []) (fileLayers view) with
  | .error e => .error e
  | .ok files => .ok (files ++ [variableLayer environment])

def load (view : View) (environment : List Variable) (path? : Option Path) :
    Except LoadError Settings :=
  match layers view environment path? with
  | .error e => .error e
  | .ok layers => settingsOf layers

end RecordAccess.Config
