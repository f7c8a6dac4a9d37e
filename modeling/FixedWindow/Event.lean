import FixedWindow.Decision
import FixedWindow.Error

/-!
# Log events

What the operations write to the log. An event is a value; its level, its message and its fields
are read off it.

## Main definitions

* `Level`, `FieldValue`, `Event`.
* `Event.level`, `Event.message`, `Event.fields`.
-/

namespace FixedWindow

/-- How much an event matters. -/
inductive Level
  | trace
  | debug
  | info
  | warn
  | error
  deriving DecidableEq, Repr

/-- The name of a level in the log. -/
def Level.label : Level → String
  | .trace => "TRACE"
  | .debug => "DEBUG"
  | .info => "INFO"
  | .warn => "WARN"
  | .error => "ERROR"

/-- The value of a field of an event. -/
inductive FieldValue
  | number (n : Nat)
  | flag (b : Bool)
  | text (s : String)
  deriving DecidableEq, Repr

/-- Something that an operation tells the log. -/
inductive Event
  /-- A local entry took over a count. -/
  | entryOverwritten (subject : String) (count limit : Nat) (ttl : Span)
  /-- A local entry was opened or reopened by counting. -/
  | entryIncremented (subject : String) (count limit : Nat)
  /-- A check was denied by a full local entry. -/
  | exhausted (subject : String) (limit count : Nat)
  /-- A check was decided by the store or by local counting. -/
  | decided (subject : String) (decision : Decision)
  /-- The limiter entered degraded mode. -/
  | becameDegraded (instanceId store : String) (error : StoreError)
  /-- The store failed again in degraded mode. -/
  | stillDegraded (error : StoreError)
  /-- The limiter left degraded mode. -/
  | recovered (instanceId store : String)
  /-- The in-memory store counted a call. -/
  | counterIncremented (key : String) (count : Nat)
  /-- The in-memory store dropped counters of closed windows. -/
  | countersEvicted (removed remaining : Nat)
  /-- A sweeper began. -/
  | sweeperStarted (interval : Span)
  /-- A sweeper swept the cache. -/
  | swept (removed remaining : Nat)
  /-- A sweeper ended because it was told to. -/
  | sweeperStopped
  /-- A sweeper was found to have ended on its own. -/
  | sweeperFailed
  /-- Connections to the server are being opened. -/
  | connecting (url : String) (poolSize timeoutMs : Nat)
  /-- Connections to the server are open. -/
  | connected (connections : Nat)
  /-- A store is ready for use. -/
  | storeReady (backend : String)
  /-- The server counted a call. -/
  | serverIncremented (key : String) (count : Nat) (ttl : Span)
  /-- A counting call to the server failed. -/
  | serverFailed (key : String) (error : StoreError)
  /-- The server answered a ping. -/
  | pinged (latency : Span)
  /-- A settings file is being read. -/
  | loadingSettings (path : String)
  /-- The program began its work. -/
  | started (version : String)
  /-- The settings are known. -/
  | settingsLoaded (backend : String) (windowSecs : Nat)
  /-- A limiter is ready for checks. -/
  | limiterReady (instanceId : String)
  /-- The program was told to stop between two checks. -/
  | interrupted (signal : String)
  deriving DecidableEq, Repr

namespace Event

/-- The level of an event. -/
def level : Event → Level
  | entryOverwritten .. | entryIncremented .. | counterIncremented .. => .trace
  | exhausted .. | decided .. | stillDegraded .. | countersEvicted .. | swept ..
  | serverIncremented .. | pinged .. => .debug
  | recovered .. | sweeperStarted .. | sweeperStopped | connecting .. | connected ..
  | storeReady .. | loadingSettings .. | started .. | settingsLoaded .. | limiterReady ..
  | interrupted .. => .info
  | becameDegraded .. | sweeperFailed => .warn
  | serverFailed .. => .error

/-- The message of an event. -/
def message : Event → String
  | entryOverwritten .. => "Local entry overwritten"
  | entryIncremented .. => "Local entry incremented"
  | exhausted .. => "Rate limit exhausted in local cache"
  | decided .. => "Rate limit decision made"
  | becameDegraded .. => "Counter store unreachable, switching to local-only counting"
  | stillDegraded .. => "Counter store still unreachable"
  | recovered .. => "Counter store reachable again, leaving degraded mode"
  | counterIncremented .. => "In-memory counter incremented"
  | countersEvicted .. => "Evicted expired in-memory counters"
  | sweeperStarted .. => "Starting cache sweeper"
  | swept .. => "Swept expired cache entries"
  | sweeperStopped => "Cache sweeper stopped"
  | sweeperFailed => "Cache sweeper task ended abnormally"
  | connecting .. => "Connecting to Redis"
  | connected .. => "Redis connections established"
  | storeReady .. => "Counter store ready"
  | serverIncremented .. => "Redis counter incremented"
  | serverFailed .. => "Redis increment failed"
  | pinged .. => "Redis ping succeeded"
  | loadingSettings .. => "Loading configuration file"
  | started version => "Version: " ++ version
  | settingsLoaded .. => "Configuration loaded"
  | limiterReady .. => "Rate limiter initialized"
  | interrupted .. => "Interrupted, stopping checks"

/-- The named fields of an event. -/
def fields : Event → List (String × FieldValue)
  | entryOverwritten subject count limit ttl =>
    [("subject", .text subject), ("count", .number count), ("limit", .number limit),
      ("ttl_ms", .number ttl.millisWord)]
  | entryIncremented subject count limit =>
    [("subject", .text subject), ("count", .number count), ("limit", .number limit)]
  | exhausted subject limit count =>
    [("subject", .text subject), ("limit", .number limit), ("count", .number count)]
  | decided subject d =>
    [("subject", .text subject), ("limit", .number d.limit), ("remaining", .number d.remaining),
      ("allowed", .flag d.allowed), ("source", .text d.source.label)]
  | becameDegraded instanceId store error =>
    [("instance_id", .text instanceId), ("store", .text store), ("error", .text error.message)]
  | stillDegraded error => [("error", .text error.message)]
  | recovered instanceId store => [("instance_id", .text instanceId), ("store", .text store)]
  | counterIncremented key count => [("key", .text key), ("count", .number count)]
  | countersEvicted removed remaining =>
    [("removed", .number removed), ("remaining", .number remaining)]
  | sweeperStarted interval => [("interval_ms", .number interval.millisWord)]
  | swept removed remaining => [("removed", .number removed), ("remaining", .number remaining)]
  | sweeperStopped => []
  | sweeperFailed => []
  | connecting url poolSize timeoutMs =>
    [("url", .text url), ("pool_size", .number poolSize), ("timeout_ms", .number timeoutMs)]
  | connected connections => [("connections", .number connections)]
  | storeReady backend => [("backend", .text backend)]
  | serverIncremented key count ttl =>
    [("key", .text key), ("count", .number count), ("ttl_ms", .number ttl.millisWord)]
  | serverFailed key error => [("key", .text key), ("error", .text error.message)]
  | pinged latency => [("latency_ms", .number latency.millisWord)]
  | loadingSettings path => [("path", .text path)]
  | started _ => []
  | settingsLoaded backend windowSecs =>
    [("backend", .text backend), ("window_secs", .number windowSecs)]
  | limiterReady instanceId => [("instance_id", .text instanceId)]
  | interrupted signal => [("signal", .text signal)]

end Event

end FixedWindow
