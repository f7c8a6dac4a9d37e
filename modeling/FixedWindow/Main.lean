import Std.Async.Signal
import Std.Internal.UV.System
import Std.Time.DateTime.Timestamp
import FixedWindow.CommandLine.Log
import FixedWindow.CommandLine.Session

/-!
# The program

Reads the clocks, the environment and the settings file, writes lines and the log, waits between
checks and listens for signals. No server can be dialled from here, so that only the store in memory
is of use.

## Main definitions

* `main`.
-/

namespace FixedWindow.CommandLine

/-- Reads both clocks. -/
def readClocks : IO Reading := do
  let now ← IO.monoNanosNow
  let wall ← Std.Time.Timestamp.now
  return ⟨⟨now⟩, ⟨wall.toNanosecondsSinceUnixEpoch.val.toNat⟩⟩

/-- The content of a file, if it can be read. -/
def readFile? (name : String) : IO (Option (String × String)) := do
  try
    let content ← IO.FS.readFile name
    return some (name, content)
  catch _ => return none

/-- What the program finds around itself. -/
def surroundings (settingsFile : Option String) : IO (Surroundings Unit) := do
  let names := (settingsFile.map Settings.fileNames).getD []
  let files ← names.filterMapM readFile?
  let environment ← Std.Internal.UV.System.osEnviron
  return {
    files := fun name => files.lookup name
    environment := environment.toList
    dial := fun _ => .error .redis
    peer := ⟨fun _ _ _ => (none, ()), fun _ _ _ => (none, ())⟩ }

/-- Where and how the log is written. -/
structure LogWriter where
  threshold : Threshold
  json : Bool

/-- Writes events to the log. -/
def LogWriter.write (w : LogWriter) (events : List Event) : IO Unit := do
  let r ← readClocks
  for e in events do
    if w.threshold.admits e then IO.eprintln (eventLine w.json r.wall e)

/-- The log that settings and the environment ask for. -/
def LogWriter.ofSettings (s : Settings) (environment : List (String × String)) : LogWriter :=
  ⟨.ofDirectives ((environment.lookup "RUST_LOG").getD s.log.level), s.log.json⟩

/-- The signals that the program listens for, each with what comes once it has arrived. -/
abbrev Listening := List (Signal × Std.Async.AsyncTask Int)

/-- Begins to listen for the signals that stop the program. -/
def listen : IO Listening := do
  let interrupt ← Std.Async.Signal.Waiter.mk .sigint false
  let terminate ← Std.Async.Signal.Waiter.mk .sigterm false
  return [(.interrupt, ← interrupt.wait), (.terminate, ← terminate.wait)]

/-- The first signal that has arrived. -/
def arrived? : Listening → IO (Option Signal)
  | [] => return none
  | (signal, coming) :: rest => do
    if ← IO.hasFinished coming then return some signal else arrived? rest

/-- The longest sleep between two looks at the signals, in milliseconds. -/
def nap : Nat := 10

/-- Waits for a number of milliseconds or until a signal arrives, in naps, of which there are at
most `naps`. -/
def pause (listening : Listening) : (naps ms : Nat) → IO (Option Signal)
  | 0, _ | _, 0 => arrived? listening
  | naps + 1, ms => do
    match ← arrived? listening with
    | some signal => return some signal
    | none =>
      IO.sleep (min nap ms).toUInt32
      pause listening naps (ms - nap)

/-- Makes checks, as many as are left, and writes their lines. -/
def runChecks (log : LogWriter) (listening : Listening) (interval : Span) (first : Bool) :
    (left : Nat) → Session Unit → IO Exit
  | 0, s => do
    log.write s.finish.log
    return .success
  | left + 1, s => do
    let ms := if first then 0 else interval.wholeMillis
    match ← pause listening (ms / nap + 1) ms with
    | some signal =>
      log.write (.interrupted signal.name :: s.finish.log)
      return .success
    | none =>
      let done := s.check (← readClocks)
      log.write done.log
      match done.answer with
      | .error exit =>
        log.write done.state.finish.log
        return exit
      | .ok report =>
        IO.println report.line.text
        (← IO.getStdout).flush
        runChecks log listening interval false left done.state

/-- Does the work of a job. -/
def runJob (settingsFile : Option String) (job : Job) : IO Exit := do
  let around ← surroundings settingsFile
  let start ← readClocks
  let ready := prepare around settingsFile start.now
  match ready.answer with
  | .error exit => return exit
  | .ok (settings, store) =>
    let log := LogWriter.ofSettings settings around.environment
    log.write ready.log
    match job with
    | .ping =>
      let done := ping around.peer settings.store.backend store start.now .zero
      log.write done.log
      match done.answer with
      | .error exit => return exit
      | .ok report =>
        IO.println report.line.text
        return .success
    | .check subject limit repeats interval =>
      let instanceId := Text.hexDigits (← IO.rand 0 wordSize)
      let opened := Session.start settings around.peer store instanceId subject limit start.now
      log.write opened.log
      let listening ← listen
      runChecks log listening interval true repeats opened.state

/-- What the program tells about its end. -/
def Exit.farewell? : Exit → Option String
  | success => none
  | failure report => some report
  | misuse => some ("error: the arguments are not understood\n\n"
      ++ "For more information, try '--help'.\n")
  | crash => some "a number or a list came to the end of its range\n"

/-- Does what a request asks for. -/
def runRequest : Option Request → IO Exit
  | none => return .misuse
  | some (.help about) => do
    IO.print (helpPage about)
    return .success
  | some .version => do
    IO.println versionLine
    return .success
  | some (.run settingsFile job) => runJob settingsFile job

end FixedWindow.CommandLine

/-- Runs the program and tells how it ended. -/
def main (args : List String) : IO UInt32 := do
  let exit ← FixedWindow.CommandLine.runRequest (FixedWindow.CommandLine.Request.ofArguments? args)
  match exit.farewell? with
  | some words => IO.eprint words
  | none => pure ()
  return exit.code.toUInt32
