import FixedWindow.Time

/-!
# Decisions

The answer to an admission check: whether the call is allowed, how many more the window admits,
when the window closes, and which tier decided.

## Main definitions

* `Source`, `Decision`.
* `Decision.ofCount`: the decision that a count calls for.
* `Decision.exhausted`: the denial that a full local entry calls for.
-/

namespace FixedWindow

/-- The tier that a decision rests on: a full entry of the local cache, the shared store, or local
counting while the store is out of reach. -/
inductive Source
  | cache
  | store
  | degraded
  deriving DecidableEq, Repr

/-- The name of a source in reports. -/
def Source.word : Source → String
  | .cache => "cache"
  | .store => "store"
  | .degraded => "degraded"

/-- The name of a source in logs. -/
def Source.label : Source → String
  | .cache => "Cache"
  | .store => "Store"
  | .degraded => "Degraded"

/-- The answer to an admission check. -/
structure Decision where
  allowed : Bool
  limit : Nat
  remaining : Nat
  resetIn : Span
  source : Source
  deriving DecidableEq, Repr

namespace Decision

/-- A call is allowed as long as the count that includes it is within the limit, and what the limit
leaves above the count remains. -/
def ofCount (count limit : Nat) (resetIn : Span) (source : Source) : Decision where
  allowed := count ≤ limit
  limit := limit
  remaining := limit - count
  resetIn := resetIn
  source := source

/-- A full local entry denies the call and leaves nothing. -/
def exhausted (limit : Nat) (resetIn : Span) : Decision where
  allowed := false
  limit := limit
  remaining := 0
  resetIn := resetIn
  source := .cache

theorem allowed_ofCount {count limit : Nat} {resetIn : Span} {source : Source} :
    (ofCount count limit resetIn source).allowed = true ↔ count ≤ limit := by
  simp [ofCount]

end Decision

end FixedWindow
