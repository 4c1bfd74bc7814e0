import DottedSchema.CommandLine

set_option autoImplicit false

open DottedSchema

/-- The reason for which a file could not be read. Error codes come with either sign. -/
def readFault (error : IO.Error) : FileFault :=
  match error with
  | .noFileOrDirectory _ _ _ => .notFound
  | .inappropriateType _ code _ => if code = 21 ∨ code = 0 - 21 then .isFolder else .notFolder
  | error => .other (toString error)

def readInput (path : String) : IO (Except FileFault ByteArray) := do
  match ← (IO.FS.readBinFile path).toBaseIO with
  | .ok contents => return .ok contents
  | .error error => return .error (readFault error)

def main (arguments : List String) : IO UInt32 := do
  let input ← match CommandLine.parse arguments with
    | some (.run path _) => readInput path
    | _ => pure (.error .notFound)
  let outcome := CommandLine.run (fun _ => input) arguments
  (← IO.getStdout).putStr outcome.stdout
  (← IO.getStderr).putStr outcome.stderr
  return outcome.status.toUInt32
