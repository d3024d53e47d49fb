import RelayTree.CommandLine.Run

/-!
# The command line program

Reads its arguments and the deployment file, and writes the answer. The exit code is
0 for success, 1 for a failure, and 2 for arguments that make no sense.
-/
namespace RelayTree.CommandLine

/-- Why a file could not be read, by the kind of the error where its sentence is known. -/
def faultOf : IO.Error → FileFault
  | .noFileOrDirectory .. => .missing
  | .inappropriateType .. => .directory
  | error => .other (toString error)

/-- The content of a file, or the fault that kept it from being read. It does not fail itself. -/
def readContent (path : String) : IO Deployment.FileContent := do
  try
    return .ofBytes (← IO.FS.readBinFile path)
  catch error =>
    return .fault (faultOf error)

/-- Write an answer and return its exit code, output before errors. -/
def deliver (answer : Answer) : IO UInt32 := do
  IO.print answer.output
  IO.eprint answer.errors
  return UInt32.ofNat answer.exitCode

end RelayTree.CommandLine

open RelayTree.CommandLine in
/-- Answer the question that the arguments ask. The file is read only if there is one. -/
def main (arguments : List String) : IO UInt32 := do
  match Request.ofArguments arguments with
  | .help => deliver (.success usage)
  | .misuse => deliver ⟨2, "", "Error: these arguments are not understood; try --help\n"⟩
  | .run invocation => deliver (invocation.answer (← readContent invocation.path))
