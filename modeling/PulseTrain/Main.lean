import PulseTrain.Program.Run

/-!
# The executable

Runs the program on the real system.
-/

namespace PulseTrain

namespace Executable

/-- The number of a system error, which some accesses report with a minus sign. -/
def errorNumber (code : UInt32) : UInt32 := if code < 0x80000000 then code else 0 - code

/-- The reason of the system's refusal. -/
def faultOf (e : IO.Error) : Fault :=
  match e with
  | .noFileOrDirectory .. => .missing
  | .inappropriateType _ code _ => if errorNumber code = 20 then .notDirectory else .directory
  | .invalidArgument _ code _ => if errorNumber code = 36 then .longName else .other (toString e)
  | _ => .other (toString e)

/-- The result of an access to the system, or the reason why it is refused. -/
def attempt {α : Type} (access : IO α) : IO (Except Fault α) := do
  match ← access.toBaseIO with
  | .ok a => return .ok a
  | .error e => return .error (faultOf e)

/-- What the system knows about a path. -/
def metadata? (path : String) : IO (Option IO.FS.Metadata) := do
  let access : IO IO.FS.Metadata := do (← IO.FS.realPath path).metadata
  return (← attempt access).toOption

instance : Host IO where
  isPresent path := return (← metadata? path).isSome
  isFile path := return (← metadata? path).any fun d => d.type == .file
  load path := attempt (IO.FS.readFile path)
  save path text := attempt (IO.FS.writeFile path text)
  readVariable name := IO.getEnv name

end Executable

end PulseTrain

/-- Runs the program on the command line. -/
def main (arguments : List String) : IO UInt32 := do
  let outcome ← PulseTrain.Program.run arguments
  IO.print outcome.output
  IO.eprint outcome.complaint
  return outcome.status.toUInt32
