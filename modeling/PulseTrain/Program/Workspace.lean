import PulseTrain.Experiment.Params
import PulseTrain.Program.Host

/-!
# Directory trees in memory

A system whose files and environment variables are a value. A directory is there if it holds
something; the one where the program runs always is, and so is `/dev/null`, which stays empty
whatever is written to it.
-/

namespace PulseTrain

/-- A directory tree and environment variables. A place in the tree is given by the names that lead
to it from the root. -/
structure Workspace where
  /-- The text of each file, by its place. -/
  files : List (List String × String)
  /-- The environment variables. -/
  environment : NameMap String
  /-- The place of the directory where the program runs. -/
  directory : List String

/-- What is at a place. -/
inductive Entry where
  /-- Nothing. -/
  | absent
  /-- A directory. -/
  | directory
  /-- A file with a text. -/
  | file (text : String)
  /-- What is always empty. -/
  | sink
deriving DecidableEq

namespace Workspace

/-- The tree that holds files at the given paths, as seen from the directory where the program
runs. -/
def ofFiles (directory : String) (files environment : List (String × String)) : Workspace :=
  let directory := FilePath.names directory
  { files := files.map fun (path, text) => (directory ++ FilePath.names path, text)
    environment := .ofList environment
    directory }

/-- The place that is always empty. -/
def sinkPlace : List String := ["dev", "null"]

/-- What is at a place. -/
def entry (w : Workspace) (place : List String) : Entry :=
  match w.files.lookup place with
  | some text => .file text
  | none =>
    if place = sinkPlace then .sink
    else if (w.directory :: sinkPlace :: w.files.map Prod.fst).any place.isPrefixOf then .directory
    else .absent

/-- The most bytes in a name. -/
def nameLimit : Nat := 255

/-- The most bytes in a path. -/
def pathLimit : Nat := 4095

/-- The place that the steps of a path lead to. Every step has to start in a directory; there is no
way up from the root. -/
def follow (w : Workspace) (place : List String) : List String → Except Fault (List String)
  | [] => .ok place
  | step :: steps =>
    match w.entry place with
    | .absent => .error .missing
    | .file _ | .sink => .error .notDirectory
    | .directory =>
      if step = "" || step = "." then w.follow place steps
      else if step = ".." then w.follow place.dropLast steps
      else if nameLimit < step.utf8ByteSize then .error .longName
      else w.follow (place ++ [step]) steps

/-- The place that some of the steps of a path lead to. A path that starts with a slash starts at
the root. -/
def placeBy (w : Workspace) (path : String) (some : List String → List String) :
    Except Fault (List String) :=
  if pathLimit < path.utf8ByteSize then .error .longName
  else w.follow (if path.startsWith "/" then [] else w.directory) (some (path.splitOn "/"))

/-- The place of a path. -/
def place (w : Workspace) (path : String) : Except Fault (List String) := w.placeBy path id

/-- What is at a path. -/
def look (w : Workspace) (path : String) : Except Fault Entry := w.entry <$> w.place path

/-- The text of a file. -/
def load (w : Workspace) (path : String) : Except Fault String := do
  match ← w.look path with
  | .absent => throw .missing
  | .directory => throw .directory
  | .file text => return text
  | .sink => return ""

/-- The steps of a path up to the directory that its last name is in. -/
def parentSteps (steps : List String) : List String :=
  ((steps.reverse.dropWhile (· = "")).drop 1).reverse ++ ["."]

/-- The tree with a text written to a file. A path that ends in a slash is that of a directory. -/
def save (w : Workspace) (path text : String) : Except Fault Workspace := do
  if path.endsWith "/" then
    let _ ← w.placeBy path parentSteps
    throw .directory
  let place ← w.place path
  match w.entry place with
  | .directory => throw .directory
  | .sink => return w
  | .absent | .file _ => return { w with files := (place, text) :: w.files.filter (·.1 ≠ place) }

end Workspace

/-- A computation on a directory tree in memory. -/
abbrev WorkspaceM := StateM Workspace

instance : Host WorkspaceM where
  isPresent path := return match (← get).look path with
    | .ok .absent => false
    | .ok _ => true
    | .error _ => false
  isFile path := return match (← get).look path with
    | .ok (.file _) => true
    | _ => false
  load path := return (← get).load path
  save path text := do
    match (← get).save path text with
    | .ok w => set w; return .ok ()
    | .error fault => return .error fault
  readVariable name := return (← get).environment[name]?

end PulseTrain
