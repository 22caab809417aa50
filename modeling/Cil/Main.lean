import Cil.Command.Response

/-!
# The command
-/

namespace Cil.Command

/-- Reads a file as text. A path that is refused as such is too long, or has a name too long. -/
def readInput (path : String) : IO (Except ReadFailure String) := do
  match ← (IO.FS.readBinFile path).toBaseIO with
  | .error (.noFileOrDirectory ..) => return .error .notFound
  | .error (.inappropriateType _ 21 _) => return .error .isDirectory
  | .error (.inappropriateType ..) => return .error .notDirectory
  | .error (.invalidArgument ..) => return .error .nameTooLong
  | .error (.permissionDenied ..) => return .error .accessDenied
  | .error error => return .error (.other (toString error))
  | .ok bytes =>
    match String.fromUTF8? bytes with
    | some text => return .ok text
    | none => return .error .notText

def answer (texts : List String) : IO Response := do
  match Arguments.read texts with
  | .error stop => return stop.response
  | .ok arguments =>
    let contents ← match arguments.input with
      | some path => readInput path
      | none => pure (.error .notFound)
    return respond .builtin arguments contents

end Cil.Command

def main (texts : List String) : IO UInt32 := do
  let response ← Cil.Command.answer texts
  IO.print response.output
  IO.eprint response.diagnostics
  return response.exitCode.toUInt32
