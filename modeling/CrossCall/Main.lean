import CrossCall.Job.Report

/-!
# The program

The program reads its command line and environment, performs the job that they ask for, and writes
what the job leaves. It is built without a transport: to a job every node is out of reach.

## Main definitions

* `Terminal.write` — writes the notes of a job
* `main` — the program
-/

namespace CrossCall.Terminal

/-- The variables of the environment that settings are read from. -/
def environment : IO (List (String × String)) :=
  let settings := Command.run.ownSettings ++ Setting.shared
  (settings.filterMap Setting.environmentName?).filterMapM fun name => do
    return (← IO.getEnv name).map fun text => (name, text)

/-- The contents of a file. -/
def contents (path : String) : IO (Except FileError Bytes) := do
  try
    return .ok (← IO.FS.readBinFile path).toList
  catch
    | .noFileOrDirectory .. => return .error .notFound
    | e => return .error (.other e.toString)

/-- Writes a line of the journal to the terminal and to the file. -/
def writeLine (sinks : Journal.Sinks) (line : Journal.Line) : IO Unit := do
  let text := s!"{line.level.name} {line.target}: {line.text}"
  if sinks.terminal.isSome then IO.println text
  if let some file := sinks.file then
    IO.FS.createDirAll file.directory
    let handle ← IO.FS.Handle.mk s!"{file.directory}/{file.fileName}" .append
    handle.putStrLn text

/-- Writes what is printed, and the lines of the journal that are kept. The operator's directives are
read from the environment. -/
def write (sinks : Journal.Sinks) (notes : List Note) : IO Unit := do
  let kept := Journal.filter sinks.threshold (← IO.getEnv "RUST_LOG")
  notes.forM fun n => match n with
    | .print text => IO.println text
    | .journal line => if Journal.keeps kept line then writeLine sinks line else pure ()
    | .measure _ _ => pure ()

/-- A bound on steps and on milliseconds that no run lives to reach. -/
def lifetime : Nat := 0x4000000000000000

/-- Writes why a job failed. -/
def writeError (e : JobError) : IO Unit := do
  IO.eprintln s!"Error: {e.message}"
  if let some cause := e.cause? then IO.eprintln s!"\nCaused by:\n    {cause}"

end CrossCall.Terminal

open CrossCall Terminal

/-- Performs the job that the command line and the environment ask for. -/
def main (arguments : List String) : IO UInt32 := do
  match Invocation.parse (← environment) arguments with
  | .error refusal =>
    IO.eprintln "usage: filler <run|prove|send-test> --config <file>"
    return UInt32.ofNat refusal.exitCode
  | .ok i =>
    let (report, _) := i.execute (← contents i.config) unreachable ()
    write i.sinks report.notes
    match report.result with
    | .error e => writeError e
    | .ok none => pure ()
    | .ok (some service) =>
      let run := Job.serve unreachable lifetime lifetime { service, nodes := () }
      write i.sinks run.notes
    return UInt32.ofNat report.exitCode
