import FixedWindow.CommandLine.Help
import FixedWindow.CommandLine.Report
import FixedWindow.Limiter
import FixedWindow.Settings.Load
import FixedWindow.Store.Choice
import FixedWindow.Sweeper

/-!
# A run of the program

The program loads its settings, connects its store and then either pings the store or makes checks.
Each check begins when the clocks have been read; a sweeper on the same clock has done what was due
by then. The checks end with the first that fails, or when the program is interrupted between two of
them.

## Main definitions

* `Surroundings`, `Reading`, `Signal`: what the program finds around itself.
* `Settings.limiter`: the limiter that settings ask for.
* `Session`, `Session.check`, `Session.checks`: checks on one subject.
* `perform`: a whole run.
-/

namespace FixedWindow

/-- The limiter that settings ask for. -/
def Settings.limiter (s : Settings) (instanceId : String) : Limiter :=
  ⟨s.limits.window, s.store.keyPrefix, instanceId⟩

namespace CommandLine

/-- What the program finds around itself: files, environment variables, and servers. -/
structure Surroundings (σ : Type) where
  files : String → Option String
  environment : List (String × String)
  dial : String → Except StoreError σ
  peer : Redis.Peer σ

/-- What tells the program to stop. -/
inductive Signal
  | interrupt
  | terminate
  deriving DecidableEq, Repr

/-- The name of a signal. -/
def Signal.name : Signal → String
  | interrupt => "SIGINT"
  | terminate => "SIGTERM"

/-- What the clocks show at one moment. -/
structure Reading where
  now : Instant
  wall : WallTime
  deriving DecidableEq, Repr

/-- Checks on one subject, with the state of what they work on. -/
structure Session (σ : Type) where
  subject : String
  limit : Nat
  limiter : Limiter
  store : Store.Fragile (Store.Choice σ)
  sweeper : Sweeper
  tiers : Tiers (Store.Choice σ)

namespace Session

variable {σ : Type}

/-- Opens a session with an empty cache over a connected store. -/
def start (s : Settings) (peer : Redis.Peer σ) (store : Store.Choice σ)
    (instanceId subject : String) (limit : Option Nat) (now : Instant) :
    Effect (Session σ) Unit :=
  let sweeper := Sweeper.start s.limits.sweepInterval now
  { answer := ()
    state := {
      subject := subject
      limit := limit.getD s.limits.defaultLimit
      limiter := s.limiter instanceId
      store := Store.Choice.store peer s.store.backend
      sweeper := sweeper.state
      tiers := ⟨false, .empty, store⟩ }
    log := sweeper.log ++ [.limiterReady instanceId] }

/-- Lets the sweeper do what is due. -/
def sweep (s : Session σ) (now : Instant) : Effect (Session σ) Unit :=
  let done := s.sweeper.wake now s.tiers.cache now
  { answer := ()
    state := { s with sweeper := done.state.1, tiers := { s.tiers with cache := done.state.2 } }
    log := done.log }

/-- Makes one check. It brings a report, or the end of the program. -/
def check (s : Session σ) (r : Reading) : Effect (Session σ) (Except Exit CheckReport) :=
  let swept := s.sweep r.now
  let s := swept.state
  let done := s.limiter.attempt s.store r.now s.subject s.limit s.tiers
  { answer :=
      match done.answer with
      | .error e => .error (.ofFailure .checking e)
      | .ok d =>
        match CheckReport.of? r.wall s.subject d with
        | some report => .ok report
        | none => .error .crash
    state := { s with tiers := done.state }
    log := swept.log ++ done.log }

/-- Makes the checks from number `i` on, as many as are left. Before each the clocks are read,
unless the program has been told to stop. -/
def checks (readings : Nat → Except Signal Reading) (i : Nat) :
    (left : Nat) → Session σ → Effect (Session σ) (List CheckReport × Exit)
  | 0, s => { answer := ([], .success), state := s }
  | left + 1, s =>
    match readings i with
    | .error signal => { answer := ([], .success), state := s, log := [.interrupted signal.name] }
    | .ok r =>
      let first := s.check r
      match first.answer with
      | .error exit => { answer := ([], exit), state := first.state, log := first.log }
      | .ok report =>
        let others := checks readings (i + 1) left first.state
        { answer := (report :: others.answer.1, others.answer.2)
          state := others.state
          log := first.log ++ others.log }

/-- Stops the sweeper. -/
def finish (s : Session σ) : Effect (Session σ) Unit :=
  let stopped := s.sweeper.shutdown
  { answer := (), state := { s with sweeper := stopped.state }, log := stopped.log }

end Session

/-- What a run leaves: lines and the way it ended. -/
structure Outcome where
  lines : List JsonLine
  exit : Exit
  deriving DecidableEq, Repr

/-- What is written to the log once the settings are known. -/
def settingsEvents (s : Settings) : List Event :=
  [.started version, .settingsLoaded s.store.backend.title s.limits.windowSecs]

/-- Loads the settings and connects the store. -/
def prepare {σ : Type} (around : Surroundings σ) (settingsFile : Option String) (now : Instant) :
    Effect Unit (Except Exit (Settings × Store.Choice σ)) :=
  let loaded := Settings.load around.files settingsFile around.environment
  match hloaded : loaded.answer with
  | .error e => { answer := .error (.ofFailure .loading e), state := (), log := loaded.log }
  | .ok settings =>
    let connected := Store.connect around.dial settings.store
      (Settings.poolSize_pos_of_load hloaded) now
    { answer :=
        match connected.answer with
        | .error e => .error (.ofFailure .connecting e)
        | .ok store => .ok (settings, store)
      state := ()
      log := loaded.log ++ settingsEvents settings ++ connected.log }

/-- Asks the store for a sign of life, which takes a while if it comes from a server. -/
def ping {σ : Type} (peer : Redis.Peer σ) (kind : StoreKind) (store : Store.Choice σ)
    (now : Instant) (took : Span) : Effect Unit (Except Exit PingReport) :=
  let done := store.ping peer now took
  { answer :=
      match done.answer with
      | .error e => .error (.ofSilence e)
      | .ok latency => .ok ⟨Store.kindName kind, latency⟩
    state := ()
    log := done.log }

/-- A whole run of a job. The clock shows `now` at the start, and the readings are those before the
checks, numbered from zero. -/
def perform {σ : Type} (around : Surroundings σ) (settingsFile : Option String)
    (instanceId : String) (now : Instant) (took : Span) (readings : Nat → Except Signal Reading)
    (job : Job) : Effect Unit Outcome :=
  let ready := prepare around settingsFile now
  match ready.answer with
  | .error exit => { answer := ⟨[], exit⟩, state := (), log := ready.log }
  | .ok (settings, store) =>
    match job with
    | .ping =>
      let done := ping around.peer settings.store.backend store now took
      { answer :=
          match done.answer with
          | .error exit => ⟨[], exit⟩
          | .ok report => ⟨[report.line], .success⟩
        state := ()
        log := ready.log ++ done.log }
    | .check subject limit repeats _ =>
      let started := Session.start settings around.peer store instanceId subject limit now
      let done := started.state.checks readings 0 repeats
      { answer := ⟨done.answer.1.map CheckReport.line, done.answer.2⟩
        state := ()
        log := ready.log ++ started.log ++ done.log ++ done.state.finish.log }

end CommandLine

end FixedWindow
