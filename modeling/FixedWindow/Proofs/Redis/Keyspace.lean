import FixedWindow.Proofs.Store.Counting
import FixedWindow.Redis.Client

/-!
# A server that keeps keys

A server with the commands that the store behind it sends. It keeps a number under each key, with
the millisecond from which on the key is absent, unless the key is to stay. It may refuse expiries
that end too late for its clock. A transaction is run as a unit, and its replies come back in one
list. As long as its numbers fit a signed word, and the
clock shows whole milliseconds only, what a server that accepts all expiries makes of a transaction
is what the in-memory store makes of a call.

## Main definitions

* `Instant.wholeMillis`, `Instant.OnMillis`: the clock in milliseconds.
* `Redis.Slot`, `Redis.Keyspace`, `Redis.Keyspace.execute`, `Redis.Keyspace.peer`: the server.
* `Redis.Keyspace.Shows`: the server shows a tally under a key, or none.

## Main results

* `Redis.Keyspace.Shows.later`, `Redis.Keyspace.Shows.transaction`: time, and a transaction.
* `Redis.Client.increment_of_shows`: what a client of the server is told of a call.
-/

namespace FixedWindow

/-! ### The clock in milliseconds -/

theorem Span.ofMillis_ne_zero {ms : Nat} (h : 0 < ms) : ofMillis ms ≠ zero := by
  intro hzero
  have hnanos : ms * nanosPerMilli = 0 := congrArg Span.nanos hzero
  simp only [nanosPerMilli] at hnanos
  omega

namespace Instant

/-- The whole milliseconds from the clock's zero to the instant. -/
def wholeMillis (t : Instant) : Nat := t.nanos / nanosPerMilli

/-- The instant lies a whole number of milliseconds from the clock's zero. -/
def OnMillis (t : Instant) : Prop := t.nanos % nanosPerMilli = 0

instance : DecidablePred OnMillis := fun t =>
  inferInstanceAs (Decidable (t.nanos % nanosPerMilli = 0))

variable {t u : Instant}

theorem lt_iff_wholeMillis (ht : t.OnMillis) (hu : u.OnMillis) :
    t < u ↔ t.wholeMillis < u.wholeMillis := by
  simp only [OnMillis, wholeMillis, nanosPerMilli, lt_def] at *
  omega

theorem since_of_onMillis (ht : t.OnMillis) (hu : u.OnMillis) :
    u.since t = .ofMillis (u.wholeMillis - t.wholeMillis) := by
  ext
  simp only [OnMillis, wholeMillis, nanosPerMilli, since, Span.ofMillis] at *
  omega

theorem onMillis_of_add? {ms : Nat} (ht : t.OnMillis) (h : t.add? (.ofMillis ms) = some u) :
    u.OnMillis ∧ u.wholeMillis = t.wholeMillis + ms := by
  obtain ⟨-, rfl⟩ := add?_eq_some_iff.mp h
  simp only [OnMillis, wholeMillis, nanosPerMilli, Span.ofMillis] at *
  omega

end Instant

namespace Redis

/-! ### The server -/

/-- The largest number of the server: the last signed word of 64 bits. -/
def maxInteger : Nat := 9223372036854775807

/-- What the server keeps under a key: a number, and the millisecond from which on the key is
absent, if there is one. -/
structure Slot where
  count : Nat
  expiresAt : Option Nat
  deriving DecidableEq, Repr

/-- A key is present strictly before its expiry. -/
def Slot.isPresent (s : Slot) (ms : Nat) : Bool := s.expiresAt.all fun t => ms < t

/-- The keys of a server, and the last millisecond at which one may expire, if the server minds. -/
structure Keyspace where
  slots : Table Slot := Table.empty
  latest? : Option Nat := none

namespace Keyspace

/-- What is present under a key at a millisecond. -/
def live? (k : Keyspace) (ms : Nat) (key : String) : Option Slot :=
  (k.slots.get? key).filter (·.isPresent ms)

/-- Puts a number with its expiry under a key. -/
def put (k : Keyspace) (key : String) (s : Slot) : Keyspace :=
  { k with slots := k.slots.insert key s }

/-- Whether an expiry is accepted. It has to be positive and, like every number, to fit a signed
word, and it must not end too late. -/
def accepts (k : Keyspace) (ms expiryMs : Nat) : Bool :=
  0 < expiryMs && expiryMs ≤ maxInteger && k.latest?.all fun last => ms + expiryMs ≤ last

/-- Carries out one command. A number that is added to without being there starts at zero, without
an expiry. The time left is negative for a key that is absent, and for one that has no expiry. -/
def execute (k : Keyspace) (ms : Nat) : Command → Reply × Keyspace
  | .setIfAbsent key expiryMs =>
    if k.accepts ms expiryMs then
      match k.live? ms key with
      | some _ => (.nil, k)
      | none => (.status "OK", k.put key ⟨0, some (ms + expiryMs)⟩)
    else (.error "ERR invalid expire time", k)
  | .incr key =>
    let s := (k.live? ms key).getD ⟨0, none⟩
    if s.count < maxInteger then
      (.integer (s.count + 1 : Nat), k.put key { s with count := s.count + 1 })
    else (.error "ERR increment would overflow", k)
  | .timeLeft key =>
    match k.live? ms key with
    | none => (.integer (-2), k)
    | some ⟨_, none⟩ => (.integer (-1), k)
    | some ⟨_, some t⟩ => (.integer (t - ms : Nat), k)
  | .ping => (.status "PONG", k)

/-- Carries out the commands of a transaction, one after the other, and lists the replies. -/
def executeAll (k : Keyspace) (ms : Nat) : List Command → List Reply × Keyspace
  | [] => ([], k)
  | c :: rest =>
    let first := k.execute ms c
    let others := executeAll first.2 ms rest
    (first.1 :: others.1, others.2)

/-- The server as its clients see it. It never leaves them without a reply. -/
def peer : Peer Keyspace where
  run k now commands :=
    let done := k.executeAll now.wholeMillis commands
    (some (.array done.1), done.2)
  answer k now command :=
    let done := k.execute now.wholeMillis command
    (some done.1, done.2)

theorem accepts_iff {k : Keyspace} {ms expiryMs : Nat} :
    k.accepts ms expiryMs = true ↔
      0 < expiryMs ∧ expiryMs ≤ maxInteger ∧ ∀ last ∈ k.latest?, ms + expiryMs ≤ last := by
  simp [accepts, and_assoc, Option.all_eq_true]

theorem live?_put (k : Keyspace) (ms : Nat) (key other : String) (s : Slot) :
    (k.put key s).live? ms other =
      if other = key then (if s.isPresent ms then some s else none) else k.live? ms other := by
  simp only [live?, put, Table.get?_insert]
  split
  · simp only [Option.filter]
  · rfl

theorem live?_later (k : Keyspace) {ms later : Nat} (key : String) (h : ms ≤ later) :
    k.live? later key = (k.live? ms key).filter (·.isPresent later) := by
  rw [live?, live?, Option.filter_filter]
  congr 1
  funext s
  cases hs : s.expiresAt with
  | none => simp [Slot.isPresent, hs]
  | some t =>
    by_cases ht : later < t
    · simp [Slot.isPresent, hs, ht, Nat.lt_of_le_of_lt h ht]
    · simp [Slot.isPresent, hs, ht]

end Keyspace

/-! ### Tallies on the server -/

/-- A tally as the server keeps it. -/
def Slot.ofTally (t : Tally) : Slot := ⟨t.count, some t.closesAt.wholeMillis⟩

theorem Slot.isPresent_ofTally {t : Tally} {now : Instant} (ht : t.closesAt.OnMillis)
    (hnow : now.OnMillis) : (ofTally t).isPresent now.wholeMillis = t.isOpen now := by
  simp only [isPresent, ofTally, Option.all_some, Tally.isOpen, Instant.lt_iff_wholeMillis hnow ht]

namespace Keyspace

variable {k : Keyspace} {now : Instant} {key : String} {shown : Option Tally}

/-- The server shows a tally under a key, or none. Its window ends on a whole millisecond. -/
structure Shows (k : Keyspace) (now : Instant) (key : String) (shown : Option Tally) : Prop where
  live : k.live? now.wholeMillis key = shown.map Slot.ofTally
  onMillis : ∀ t, shown = some t → t.closesAt.OnMillis

theorem execute_timeLeft (k : Keyspace) (ms : Nat) (key : String) :
    (k.execute ms (.timeLeft key)).2 = k := by
  simp only [execute]
  split <;> rfl

theorem latest?_execute (k : Keyspace) (ms : Nat) (command : Command) :
    (k.execute ms command).2.latest? = k.latest? := by
  cases command with
  | setIfAbsent key expiryMs =>
    simp only [execute]
    split
    · split <;> rfl
    · rfl
  | incr key =>
    simp only [execute]
    split <;> rfl
  | timeLeft key => rw [execute_timeLeft]
  | ping => rfl

theorem latest?_executeAll (k : Keyspace) (ms : Nat) (commands : List Command) :
    (k.executeAll ms commands).2.latest? = k.latest? := by
  induction commands generalizing k with
  | nil => rfl
  | cons c rest ih => exact (ih (k.execute ms c).2).trans (k.latest?_execute ms c)

theorem shows_empty (now : Instant) (key : String) : Shows {} now key none where
  live := rfl
  onMillis _ h := by cases h

/-- Time only closes windows. -/
theorem Shows.later (h : k.Shows now key shown) {later : Instant} (hle : now ≤ later)
    (hlater : later.OnMillis) : k.Shows later key (Tally.open? shown later) where
  live := by
    have hms : now.wholeMillis ≤ later.wholeMillis := Nat.div_le_div_right hle
    rw [live?_later k key hms, h.live]
    cases shown with
    | none => rfl
    | some t =>
      have hpresent := Slot.isPresent_ofTally (h.onMillis t rfl) hlater
      simp only [Option.map_some, Tally.open?, Option.filter_some, hpresent]
      split <;> rfl
  onMillis t ht := h.onMillis t (Tally.open?_eq_some_iff.mp ht).1

theorem shows_put (k : Keyspace) (key : String) (hnow : now.OnMillis) {t : Tally}
    (ht : t.closesAt.OnMillis) (hopen : now < t.closesAt) :
    (k.put key (.ofTally t)).Shows now key (some t) ∧ ∀ other, other ≠ key →
      (k.put key (.ofTally t)).live? now.wholeMillis other = k.live? now.wholeMillis other := by
  have hpresent : (Slot.ofTally t).isPresent now.wholeMillis = true := by
    rw [Slot.isPresent_ofTally ht hnow]
    exact Tally.isOpen_iff.mpr hopen
  refine ⟨⟨?_, fun u hu => ?_⟩, fun other hother => ?_⟩
  · rw [live?_put, if_pos rfl, if_pos hpresent, Option.map_some]
  · cases hu
    exact ht
  · rw [live?_put, if_neg hother]

/-- The first command of a transaction opens a window unless one is open. -/
theorem Shows.setIfAbsent (h : k.Shows now key shown) (hlatest : k.latest? = none)
    (hnow : now.OnMillis) {ms : Nat} (hpos : 0 < ms) (hms : ms ≤ maxInteger) {newEnd : Instant}
    (hend : now.add? (.ofMillis ms) = some newEnd) :
    ∃ first k', k.execute now.wholeMillis (.setIfAbsent key ms) = (first, k') ∧
      (first = .status "OK" ∨ first = .nil) ∧ k'.Shows now key (some (shown.getD ⟨0, newEnd⟩)) ∧
      ∀ other, other ≠ key →
        k'.live? now.wholeMillis other = k.live? now.wholeMillis other := by
  have haccepts : k.accepts now.wholeMillis ms = true :=
    accepts_iff.mpr ⟨hpos, hms, by simp [hlatest]⟩
  cases shown with
  | none =>
    obtain ⟨hnewEnd, hnewMs⟩ := Instant.onMillis_of_add? hnow hend
    have hlt : now < newEnd := by
      rw [Instant.lt_iff_wholeMillis hnow hnewEnd]
      omega
    refine ⟨.status "OK", k.put key (.ofTally ⟨0, newEnd⟩), ?_, .inl rfl,
      shows_put k key hnow hnewEnd hlt⟩
    simp only [execute, haccepts, if_true, h.live, Option.map_none, Slot.ofTally, hnewMs]
  | some t =>
    refine ⟨.nil, k, ?_, .inr rfl, h, fun _ _ => rfl⟩
    simp only [execute, haccepts, if_true, h.live, Option.map_some]

/-- The other two commands add one to the tally that is shown, and ask for the time that its window
has left. -/
theorem Shows.incr {u : Tally} (h : k.Shows now key (some u)) (hnow : now.OnMillis)
    (hopen : now < u.closesAt) (hroom : u.count < maxInteger) :
    k.executeAll now.wholeMillis [.incr key, .timeLeft key] =
      ([.integer (u.count + 1 : Nat),
          .integer (u.closesAt.wholeMillis - now.wholeMillis : Nat)],
        k.put key (.ofTally ⟨u.count + 1, u.closesAt⟩)) := by
  have hincr : k.execute now.wholeMillis (.incr key) =
      (.integer (u.count + 1 : Nat), k.put key (.ofTally ⟨u.count + 1, u.closesAt⟩)) := by
    simp only [execute, h.live, Option.map_some, Option.getD_some, Slot.ofTally, hroom, if_true]
  obtain ⟨⟨hlive, -⟩, -⟩ := shows_put k key hnow (t := ⟨u.count + 1, u.closesAt⟩)
    (h.onMillis u rfl) hopen
  have htimeLeft : (k.put key (.ofTally ⟨u.count + 1, u.closesAt⟩)).execute now.wholeMillis
      (.timeLeft key) = (.integer (u.closesAt.wholeMillis - now.wholeMillis : Nat),
        k.put key (.ofTally ⟨u.count + 1, u.closesAt⟩)) := by
    simp only [execute, hlive, Option.map_some]
    rfl
  simp only [executeAll, hincr, htimeLeft]

/-- A transaction counts the call in the tally that is shown under its key, or in a new one, and is
told the number and the time left. -/
theorem Shows.transaction {call : Store.Call} (h : k.Shows now call.key shown)
    (hlatest : k.latest? = none) (hnow : now.OnMillis) {ms : Nat}
    (hwindow : call.window = .ofMillis ms) (hpos : 0 < ms) (hms : ms ≤ maxInteger)
    {newEnd : Instant} (hend : now.add? call.window = some newEnd)
    (hopen : ∀ t, shown = some t → now < t.closesAt ∧ t.count < maxInteger) :
    let t := Tally.next shown newEnd
    ∃ first k', k.executeAll now.wholeMillis (Redis.transaction call) =
        ([first, .integer t.count,
          .integer (t.closesAt.wholeMillis - now.wholeMillis : Nat)], k') ∧
      (first = .status "OK" ∨ first = .nil) ∧ k'.Shows now call.key (some t) ∧
      ∀ other, other ≠ call.key →
        k'.live? now.wholeMillis other = k.live? now.wholeMillis other := by
  intro t
  have hexpiry : expiryMs call.window = ms := by
    simp only [hwindow, expiryMs, Span.wholeMillis_ofMillis, wordSize, maxInteger] at *
    omega
  rw [hwindow] at hend
  obtain ⟨first, k', hset, hfirst, hshows, hothers⟩ := h.setIfAbsent hlatest hnow hpos hms hend
  generalize hu : shown.getD ⟨0, newEnd⟩ = u at hshows
  have ht : t = ⟨u.count + 1, u.closesAt⟩ := by
    subst hu
    cases shown <;> rfl
  have hbefore : now < u.closesAt ∧ u.count < maxInteger := by
    cases shown with
    | none =>
      subst hu
      exact ⟨Instant.lt_of_add? hend (Span.ofMillis_ne_zero hpos), Nat.zero_lt_succ _⟩
    | some v =>
      subst hu
      exact hopen v rfl
  obtain ⟨hafter, hrest⟩ := shows_put k' call.key hnow (t := t) (ht ▸ hshows.onMillis u rfl)
    (ht ▸ hbefore.1)
  refine ⟨first, k'.put call.key (.ofTally t), ?_, hfirst, hafter,
    fun other hother => (hrest other hother).trans (hothers other hother)⟩
  rw [Redis.transaction, hexpiry, executeAll, hset]
  simp only [hshows.incr hnow hbefore.1 hbefore.2, ht]

end Keyspace

/-! ### A client of the server -/

theorem fitsSigned_natCast {n : Nat} (h : n ≤ maxInteger) : Number.fitsSigned 64 n = true := by
  have hpow : Nat.pow 2 (64 - 1) = maxInteger + 1 := by decide
  simp only [Number.fitsSigned, hpow, Bool.and_eq_true, decide_eq_true_eq]
  omega

/-- Figures that are positive signed words are those of a window. -/
theorem readTransaction_of_pos (timeout : Span) {first : Reply}
    (hfirst : first = .status "OK" ∨ first = .nil) {count left : Nat} (hcount : 0 < count)
    (hcountFits : count ≤ maxInteger) (hleft : 0 < left) (hleftFits : left ≤ maxInteger) :
    readTransaction timeout (some (.array [first, .integer count, .integer left])) =
      .ok (.ok ⟨count, .ofMillis left⟩) := by
  have hsound : first.hasError = false ∧ ∀ levels, first.parses (levels + 1) = true := by
    rcases hfirst with rfl | rfl <;> exact ⟨rfl, fun _ => rfl⟩
  have hnot : ¬ (count : Int) ≤ 0 ∧ ¬ (left : Int) ≤ 0 := by omega
  have hreceived : receive timeout (some (.array [first, .integer count, .integer left])) =
      .ok (.array [first, .integer count, .integer left]) := by
    rw [receive_eq_ok_iff]
    simp [Reply.parses, Reply.allParse, Reply.maxLevels, hsound, fitsSigned_natCast hcountFits,
      fitsSigned_natCast hleftFits, Reply.isNotice, Reply.hasError, Reply.anyHasError]
  simp [readTransaction, hreceived, figures?, Reply.toInt?, Reply.bare, windowCount,
    Nat.ne_of_gt hcount, Nat.ne_of_gt hleft]

/-- A client is told the tally that is shown under the key of its call, with the call in it. -/
theorem Client.increment_of_shows {c : Client Keyspace} {now : Instant} {call : Store.Call}
    {shown : Option Tally} (h : c.server.Shows now call.key shown)
    (hlatest : c.server.latest? = none) (hnow : now.OnMillis) {ms : Nat}
    (hwindow : call.window = .ofMillis ms) (hpos : 0 < ms) (hms : ms ≤ maxInteger)
    {newEnd : Instant} (hend : now.add? call.window = some newEnd)
    (hopen : ∀ t, shown = some t → now < t.closesAt ∧ t.count < maxInteger)
    (hnear : ∀ t, shown = some t →
      t.closesAt.wholeMillis ≤ now.wholeMillis + maxInteger) :
    let t := Tally.next shown newEnd
    let done := c.increment Keyspace.peer now call
    done.answer = .ok (.ok ⟨t.count, t.closesAt.since now⟩) ∧
      done.state.server.Shows now call.key (some t) ∧ done.state.server.latest? = none ∧
      ∀ other, other ≠ call.key → done.state.server.live? now.wholeMillis other =
        c.server.live? now.wholeMillis other := by
  intro t done
  obtain ⟨first, k', hrun, hfirst, hshows, hothers⟩ :=
    h.transaction hlatest hnow hwindow hpos hms hend hopen
  have hserver : done.state.server = k' := congrArg Prod.snd hrun
  have htold : done.answer = readTransaction c.timeout (some (.array [first, .integer t.count,
      .integer (t.closesAt.wholeMillis - now.wholeMillis : Nat)])) :=
    congrArg (fun run : List Reply × Keyspace =>
      readTransaction c.timeout (some (.array run.1))) hrun
  have hlt : now < t.closesAt := Tally.closesAt_next (fun u hu => (hopen u hu).1) fun _ =>
    Instant.lt_of_add? hend (hwindow ▸ Span.ofMillis_ne_zero hpos)
  have hcount : 0 < t.count ∧ t.count ≤ maxInteger := by
    cases hu : shown with
    | none => simp [t, hu, Tally.next, maxInteger]
    | some u => simpa [t, hu, Tally.next] using Nat.succ_le_of_lt (hopen u hu).2
  have hend' : t.closesAt.OnMillis := hshows.onMillis t rfl
  have hleft : t.closesAt.wholeMillis ≤ now.wholeMillis + maxInteger := by
    cases hu : shown with
    | none =>
      have hnewMs := (Instant.onMillis_of_add? hnow (hwindow ▸ hend)).2
      simp only [t, hu, Tally.next]
      omega
    | some u => simpa [t, hu, Tally.next] using hnear u hu
  refine ⟨?_, hserver ▸ hshows, (Keyspace.latest?_executeAll ..).trans hlatest,
    fun other hother => by rw [hserver, hothers other hother]⟩
  rw [Instant.lt_iff_wholeMillis hnow hend'] at hlt
  rw [htold, Instant.since_of_onMillis hnow hend',
    readTransaction_of_pos c.timeout hfirst hcount.1 hcount.2 (by omega) (by omega)]

end Redis

end FixedWindow
