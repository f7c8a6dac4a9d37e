import FixedWindow.Time

/-!
# Settings

What the limiter runs with: the store and how to reach it, the window and the default limit, and the
log. Every setting has a default. Settings of the right types may still be useless, and then a
condition names what is wrong with them.

## Main definitions

* `StoreSettings`, `LimitSettings`, `LogSettings`, `Settings`.
* `Settings.Condition`: what settings have to meet, in the order in which it is looked at.
* `Settings.unmet?`: the first condition that settings do not meet.

## Main statements

* `Settings.unmet?_eq_none_iff`: settings without an unmet condition have no zero where a number
  counts and no empty prefix.
-/

namespace FixedWindow

/-- The stores that can hold the shared counters. -/
inductive StoreKind
  | redis
  | memory
  deriving DecidableEq, Repr

/-- The name of a store in settings and reports. -/
def StoreKind.label : StoreKind → String
  | .redis => "redis"
  | .memory => "memory"

/-- The name of a store in logs. -/
def StoreKind.title : StoreKind → String
  | .redis => "Redis"
  | .memory => "Memory"

/-- The store with a name. -/
def StoreKind.ofLabel? (name : String) : Option StoreKind :=
  if name = StoreKind.redis.label then some .redis
  else if name = StoreKind.memory.label then some .memory
  else none

/-- Which store holds the shared counters and how it is reached. -/
structure StoreSettings where
  backend : StoreKind := .redis
  url : String := "redis://127.0.0.1:6379/"
  poolSize : Nat := 10
  timeoutMs : Nat := 3000
  keyPrefix : String := "rate_limit"
  deriving DecidableEq, Repr

/-- The longest that one call of the store may take. -/
def StoreSettings.timeout (s : StoreSettings) : Span := .ofMillis s.timeoutMs

/-- The window, the sweeps of the local cache and the limit of callers that name none. -/
structure LimitSettings where
  windowSecs : Nat := 60
  sweepIntervalSecs : Nat := 30
  defaultLimit : Nat := 100
  deriving DecidableEq, Repr

/-- The length of a window. -/
def LimitSettings.window (s : LimitSettings) : Span := .ofSecs s.windowSecs

/-- The time between two sweeps of the local cache. -/
def LimitSettings.sweepInterval (s : LimitSettings) : Span := .ofSecs s.sweepIntervalSecs

/-- What is logged and in which form. -/
structure LogSettings where
  level : String := "info"
  json : Bool := false
  deriving DecidableEq, Repr

/-- All settings. -/
structure Settings where
  store : StoreSettings := {}
  limits : LimitSettings := {}
  log : LogSettings := {}
  deriving DecidableEq, Repr

namespace Settings

/-- What settings have to meet. -/
inductive Condition
  | poolSize
  | timeout
  | keyPrefix
  | window
  | sweepInterval
  | defaultLimit
  deriving DecidableEq, Repr

namespace Condition

/-- The conditions in the order in which they are looked at. -/
def all : List Condition :=
  [.poolSize, .timeout, .keyPrefix, .window, .sweepInterval, .defaultLimit]

/-- Whether settings meet a condition. -/
def holds (s : Settings) : Condition → Bool
  | .poolSize => 0 < s.store.poolSize
  | .timeout => 0 < s.store.timeoutMs
  | .keyPrefix => s.store.keyPrefix ≠ ""
  | .window => 0 < s.limits.windowSecs
  | .sweepInterval => 0 < s.limits.sweepIntervalSecs
  | .defaultLimit => 0 < s.limits.defaultLimit

/-- The wording for settings that do not meet a condition. -/
def message : Condition → String
  | .poolSize => "store.pool_size must be > 0"
  | .timeout => "store.timeout_ms must be > 0"
  | .keyPrefix => "store.key_prefix must not be empty"
  | .window => "rate_limiting.window_secs must be > 0"
  | .sweepInterval => "rate_limiting.sweep_interval_secs must be > 0"
  | .defaultLimit => "rate_limiting.default_limit must be > 0"

end Condition

/-- The first condition that settings do not meet. -/
def unmet? (s : Settings) : Option Condition :=
  Condition.all.find? fun c => !c.holds s

/-- Settings meet every condition if no number that counts is zero and the prefix is not empty. -/
theorem unmet?_eq_none_iff {s : Settings} :
    s.unmet? = none ↔ 0 < s.store.poolSize ∧ 0 < s.store.timeoutMs ∧ s.store.keyPrefix ≠ ""
      ∧ 0 < s.limits.windowSecs ∧ 0 < s.limits.sweepIntervalSecs ∧ 0 < s.limits.defaultLimit := by
  simp [unmet?, Condition.all, Condition.holds]

end Settings

end FixedWindow
