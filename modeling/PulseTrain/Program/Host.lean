/-!
# The system underneath

What the program needs of the system it runs on: files, by path, and environment variables. A path
is made of names between slashes; empty names and single dots do not count. The program is written
for any such system, so it runs on the real one as well as on a directory tree that is held in
memory.
-/

namespace PulseTrain

/-- The value of each environment variable that is set. -/
abbrev Environment := String → Option String

namespace FilePath

/-- The names that a path is made of. -/
def names (path : String) : List String :=
  (path.splitOn "/").filter fun n => n ≠ "" && n ≠ "."

/-- The path of what a path names within a directory. -/
def within (directory name : String) : String := s!"{directory}/{name}"

/-- The extension of the last name: what follows its last dot, unless that is its first
character. -/
def extension? (path : String) : Option String := do
  let name ← (names path).getLast?
  let reversed := name.toList.reverse
  match reversed.dropWhile (· ≠ '.') with
  | _ :: _ :: _ =>
    if name = ".." then none
    else some (.ofList (reversed.takeWhile (· ≠ '.')).reverse)
  | _ => none

end FilePath

/-- Why the system refuses access to a file. -/
inductive Fault where
  /-- Nothing is there. -/
  | missing
  /-- A directory is there. -/
  | directory
  /-- The path leads through a file. -/
  | notDirectory
  /-- A name or the whole path is too long. -/
  | longName
  /-- Any other reason. -/
  | other (reason : String)
deriving DecidableEq

namespace Fault

/-- The wording of a fault. -/
def message : Fault → String
  | missing => "No such file or directory (os error 2)"
  | directory => "Is a directory (os error 21)"
  | notDirectory => "Not a directory (os error 20)"
  | longName => "File name too long (os error 36)"
  | other reason => reason

end Fault

/-- A system that the program can run on. -/
class Host (m : Type → Type) where
  /-- Whether anything is at a path. -/
  isPresent (path : String) : m Bool
  /-- Whether a file is at a path. -/
  isFile (path : String) : m Bool
  /-- The text of a file. -/
  load (path : String) : m (Except Fault String)
  /-- Writes a text to a file. -/
  save (path text : String) : m (Except Fault Unit)
  /-- The value of an environment variable. -/
  readVariable (name : String) : m (Option String)

end PulseTrain
