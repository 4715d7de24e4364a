import Scriptlet.CommandLine

/-! The executable. -/

namespace Scriptlet.CommandLine

def readFile (name : String) : IO Reading := do
  try
    return .bytes (← IO.FS.readBinFile name)
  catch failure =>
    match failure with
    | .inappropriateType none .. => return .isDirectory
    | .inappropriateType (some _) .. => return .notDirectory
    | .invalidArgument .. => return .nameTooLong
    | _ => return .notFound

def execute (arguments : List String) : IO UInt32 := do
  let environment : Environment :=
    { debug := ← IO.getEnv "OKODEBUG", limit := ← IO.getEnv "OKO_RECURSION_LIMIT" }
  let outcome ← run readFile environment Script.ampleRounds arguments
  (← IO.getStdout).putStr outcome.out
  (← IO.getStderr).putStr outcome.err
  match outcome.exit with
  | .status code => return UInt32.ofNat code
  | .unhandled title =>
      (← IO.getStderr).putStrLn title
      return 1

end Scriptlet.CommandLine

def main (arguments : List String) : IO UInt32 :=
  Scriptlet.CommandLine.execute arguments
