import FixedWindow.Redis.Reply
import FixedWindow.Store.Call

/-!
# The store behind a server

Calls are counted by a server that several processes share. One call is one transaction: create the
key with an expiry if it is absent, add one to it, and ask for the time left. The transaction runs
as a unit, so a key never exists without an expiry. Calls rotate over a fixed number of connections,
and one that is not answered within the timeout fails.

Before it reads the replies of a transaction, the client makes room for one less than there are, as
the first is only looked through for errors. A transaction that is answered with an empty list is
therefore aborted.

## Main definitions

* `Redis.Command`, `Redis.transaction`: what is sent for one call.
* `Redis.Peer`: a server, as a function from commands to replies.
* `Redis.Client`, `Redis.Client.connect`, `Redis.Client.increment`, `Redis.Client.ping`.
* `Redis.Client.store`: the store as the limiter uses it.
* `Redis.Client.backend`: the same store, its aborted calls being taken for failures.
-/

namespace FixedWindow.Redis

open FixedWindow.Store

/-- A command to the server. -/
inductive Command
  /-- Creates a key with the value zero and an expiry in milliseconds, unless it exists. -/
  | setIfAbsent (key : String) (expiryMs : Nat)
  /-- Adds one to the value of a key and answers the sum. -/
  | incr (key : String)
  /-- Answers the milliseconds until a key expires. -/
  | timeLeft (key : String)
  /-- Asks for a sign of life. -/
  | ping
  deriving DecidableEq, Repr

/-- The words of a command as they are sent. -/
def Command.words : Command → List String
  | setIfAbsent key expiryMs => ["SET", key, "0", "NX", "PX", toString expiryMs]
  | incr key => ["INCR", key]
  | timeLeft key => ["PTTL", key]
  | ping => ["PING"]

/-- The expiry asked for a window: its whole milliseconds, at least one, as a 64-bit word. -/
def expiryMs (window : Span) : Nat := max window.wholeMillis 1 % wordSize

/-- The commands that count one call. They are run as a unit. -/
def transaction (call : Call) : List Command :=
  [.setIfAbsent call.key (expiryMs call.window), .incr call.key, .timeLeft call.key]

/-- What a server makes of a command or of a transaction at an instant: a reply or silence. -/
structure Peer (σ : Type) where
  run : σ → Instant → List Command → Option Reply × σ
  answer : σ → Instant → Command → Option Reply × σ

/-- The client side: the number of connections and the one to use next, the timeout, the server, and
every line of words sent so far with the number of its connection. -/
structure Client (σ : Type) where
  connections : Nat
  connected : 0 < connections := by decide
  timeout : Span
  next : Nat := 0
  server : σ
  sent : List (Nat × List String) := []

/-- The count and the time left as the server gave them. -/
def figures? : Reply → Option (Int × Int)
  | .array [_, count, timeLeft] => do
    let count ← count.toInt?
    let timeLeft ← timeLeft.toInt?
    pure (count, timeLeft)
  | _ => none

/-- Numbers of the server as the figures of a window. Both have to be positive: a key without expiry
and a vanished key show as negative time left. -/
def windowCount (count timeLeft : Int) : Answer :=
  if count ≤ 0 then .error (.protocol (.count count))
  else if timeLeft ≤ 0 then .error (.protocol (.timeLeft timeLeft))
  else .ok ⟨count.toNat, .ofMillis timeLeft.toNat⟩

/-- What is received of what came back: a reply without an error in it. A notice is passed over, so
that nothing else arrives in time. -/
def receive (timeout : Span) : Option Reply → Except StoreError Reply
  | none => .error (.timeout timeout)
  | some reply =>
    if ¬ reply.parses Reply.maxLevels then .error .redis
    else if reply.isNotice then .error (.timeout timeout)
    else if reply.hasError then .error .redis
    else .ok reply

/-- What is received is the reply itself, if it can be parsed, is no notice and holds no error. -/
theorem receive_eq_ok_iff {timeout : Span} {reply : Option Reply} {r : Reply} :
    receive timeout reply = .ok r ↔ reply = some r ∧ r.parses Reply.maxLevels = true ∧
      r.isNotice = false ∧ r.hasError = false := by
  cases reply with
  | none => simp [receive]
  | some reply =>
    simp only [receive, Option.some.injEq]
    split
    · simp only [reduceCtorEq, false_iff]
      rintro ⟨rfl, hparses, -⟩
      contradiction
    · split
      · simp only [reduceCtorEq, false_iff]
        rintro ⟨rfl, -, hnotice, -⟩
        simp_all
      · split
        · simp only [reduceCtorEq, false_iff]
          rintro ⟨rfl, -, -, herror⟩
          simp_all
        · simp only [Except.ok.injEq]
          constructor
          · rintro rfl
            simp_all
          · exact fun h => h.1

/-- Reads what came back for a transaction. -/
def readTransaction (timeout : Span) (reply : Option Reply) : Except Abort Answer :=
  match receive timeout reply with
  | .error e => .ok (.error e)
  | .ok (.array []) => .error .belowZero
  | .ok reply => .ok <|
    match figures? reply with
    | none => .error .redis
    | some (count, timeLeft) => windowCount count timeLeft

/-- Reads what came back for a ping. -/
def readPing (timeout : Span) (reply : Option Reply) : Except StoreError Unit :=
  match receive timeout reply with
  | .error e => .error e
  | .ok reply =>
    match reply.toText? with
    | none => .error .redis
    | some text => if text = "PONG" then .ok () else .error (.protocol (.ping text))

/-- What the log is told about a counting call. Senseless figures are left to the caller. -/
def countingEvents (key : String) : Answer → List Event
  | .ok figures => [.serverIncremented key figures.count figures.ttl]
  | .error (.protocol _) => []
  | .error e => [.serverFailed key e]

namespace Client

variable {σ : Type}

/-- Opens the connections, of which there is one at least. Dialling an address brings the server
behind it or an error. -/
def connect (dial : String → Except StoreError σ) (s : StoreSettings) (hpool : 0 < s.poolSize) :
    Effect Unit (Except StoreError (Client σ)) :=
  let opening := Event.connecting s.url s.poolSize s.timeoutMs
  match dial s.url with
  | .error e => { answer := .error e, state := (), log := [opening] }
  | .ok server =>
    { answer := .ok ⟨s.poolSize, hpool, s.timeout, 0, server, []⟩
      state := ()
      log := [opening, .connected s.poolSize] }

/-- The connection that the next call uses. -/
def connection (c : Client σ) : Nat := c.next % c.connections

/-- Counts one call. -/
def increment (peer : Peer σ) (c : Client σ) (now : Instant) (call : Call) :
    Effect (Client σ) (Except Abort Answer) :=
  let commands := transaction call
  let lines := [["MULTI"]] ++ commands.map Command.words ++ [["EXEC"]]
  let (reply, server) := peer.run c.server now commands
  let told := readTransaction c.timeout reply
  { answer := told
    state := { c with
      next := c.next + 1
      server := server
      sent := c.sent ++ lines.map fun words => (c.connection, words) }
    log := told.toOption.toList.flatMap (countingEvents call.key) }

/-- Asks the server for a sign of life, which takes a while to come. -/
def ping (peer : Peer σ) (c : Client σ) (now : Instant) (took : Span) :
    Effect (Client σ) (Except StoreError Span) :=
  let (reply, server) := peer.answer c.server now .ping
  let answer := (readPing c.timeout reply).map fun _ => took
  { answer := answer
    state := { c with
      next := c.next + 1
      server := server
      sent := c.sent ++ [(c.connection, Command.ping.words)] }
    log := answer.toOption.toList.map .pinged }

/-- The name of this store. -/
def name : String := "redis"

/-- The store as the limiter uses it. -/
def store (peer : Peer σ) : Fragile (Client σ) := ⟨name, increment peer⟩

/-- The store as one that always answers. -/
def backend (peer : Peer σ) : Backend (Client σ) := (store peer).guarded

/-- The client in diagnostics. -/
def diagnostic (c : Client σ) : String :=
  "RedisCounterStore \x7b connections: " ++ toString c.connections ++ ", timeout: "
    ++ c.timeout.text ++ " \x7d"

end Client

end FixedWindow.Redis
