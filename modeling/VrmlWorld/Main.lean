/-
  VrmlWorld/Main.lean
  ===================
  **The command line of the inspector.**
-/
import VrmlWorld.Inspector.Inspection

open VrmlWorld

/-- Reads a file of the disk. Codes of the system come with either sign. -/
def readFile (path : String) : IO (Except FileProblem String) := do
  if path.toList.contains '\x00' then return .error .zeroInPath
  try
    let bytes ← IO.FS.readBinFile path
    match String.fromUTF8? bytes with
    | some text => pure (.ok text)
    | none => pure (.error .notText)
  catch error =>
    match error with
    | .noFileOrDirectory .. => pure (.error .missing)
    | .inappropriateType _ code _ =>
        pure (.error (if min code (-code) = 20 then .notDirectory else .isDirectory))
    | .invalidArgument _ code _ =>
        pure (.error (if min code (-code) = 36 then .nameTooLong else .other error.toString))
    | error => pure (.error (.other error.toString))

def main (arguments : List String) : IO UInt32 := do
  let outcome := Inspector.Outcome.ofExcept (← (Inspector.inspect readFile arguments).run)
  IO.print outcome.output
  IO.eprint outcome.errors
  pure outcome.exitCode.toUInt32
