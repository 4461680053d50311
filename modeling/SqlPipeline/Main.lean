import SqlPipeline.CommandLine

/-!
The program of the command line. The answer of the server is read from the standard input.
-/

open SqlPipeline

def environmentVariable (name : String) : IO (Option Text) := do
  return (← IO.getEnv name).map String.toList

def environment : IO Environment := do
  return ⟨← environmentVariable "LIBSQL_URL", ← environmentVariable "LIBSQL_AUTH_TOKEN",
    ← environmentVariable "LIBSQL_TIMEOUT", ← environmentVariable "LIBSQL_LOG_LEVEL"⟩

def main (arguments : List String) : IO UInt32 := do
  let body ← if arguments.isEmpty then pure "" else (← IO.getStdin).readToEnd
  let report := CommandLine.run (← environment) (fun _ => .response 200 body.toList)
    (arguments.map String.toList)
  IO.print (String.ofList report.output)
  IO.eprint (String.ofList report.errors)
  match report.status with
  | .ok status => return status.toUInt32
  | .error _ => return 1
