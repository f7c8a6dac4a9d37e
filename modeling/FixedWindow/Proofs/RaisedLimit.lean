import FixedWindow.Proofs.Frame

/-!
# The same check under a higher limit

The limit of a check decides whether a live entry denies it before the store is asked, and whether
the count that is found is within the limit. Nothing else depends on it: once the store has been
asked, the count, its window, the tier that they rest on and a refusal of the cache are the same
under every limit (`Limiter.Finding`). A higher limit leaves room wherever a lower one does, so that
a check which is allowed stays allowed when its limit is raised, and is told the difference as
additional calls that remain. It may be that the store is asked only under the higher limit.

## Main definitions

* `Limiter.Finding`: what is found in a check apart from its limit, with the answer and the cache
  that come of it under a limit.

## Main results

* `Limiter.exists_finding`: what is found after the store is asked does not depend on the limit.
* `Limiter.check_of_raised_limit`: how a check under a higher limit compares with the same check
  under a lower one.
-/

namespace FixedWindow

namespace Limiter

/-! ### What is found -/

/-- What is found in a check apart from its limit: the cache refuses the write, or a count and its
window, which rest on a tier. -/
inductive Finding
  | refused (why : Refusal)
  | found (t : Tally) (source : Source)

namespace Finding

/-- The answer under a limit. -/
def answer (f : Finding) (now : Instant) (limit : Nat) : Except LimitError Decision :=
  match f with
  | refused why => .error (.invariant why)
  | found t source => .ok (.ofCount t.count limit (t.closesAt.since now) source)

/-- The cache that is left under a limit. -/
def left (f : Finding) (cache : Cache) (subject : String) (limit : Nat) : Cache :=
  match f with
  | refused _ => cache
  | found t _ => cache.put subject ⟨t.count, limit, t.closesAt⟩

theorem map_tally_left (f : Finding) (cache : Cache) (subject : String) (low high : Nat)
    (other : String) :
    ((f.left cache subject low).entries.get? other).map Entry.tally =
      ((f.left cache subject high).entries.get? other).map Entry.tally := by
  cases f with
  | refused why => rfl
  | found t source =>
    simp only [left, Cache.put, Table.get?_insert]
    split <;> rfl

theorem answer_of_raised_limit {f : Finding} {now : Instant} {low high : Nat} (hle : low ≤ high)
    {d : Decision} (hd : f.answer now low = .ok d) (hallowed : d.allowed = true) :
    ∃ d', f.answer now high = .ok d' ∧ d'.allowed = true ∧ d'.source = d.source ∧
      d'.resetIn = d.resetIn ∧ d'.remaining = d.remaining + (high - low) := by
  cases f with
  | refused why => cases hd
  | found t source =>
    cases hd
    have hcount : t.count ≤ low := Decision.allowed_ofCount.mp hallowed
    refine ⟨_, rfl, Decision.allowed_ofCount.mpr (Nat.le_trans hcount hle), rfl, rfl, ?_⟩
    simp only [Decision.ofCount]
    omega

theorem answer_of_lowered_limit {f : Finding} {now : Instant} {low high : Nat} (hle : low ≤ high)
    {d' : Decision} (hd' : f.answer now high = .ok d') (hdenied : d'.allowed = false) :
    ∃ d, f.answer now low = .ok d ∧ d.allowed = false := by
  cases f with
  | refused why => cases hd'
  | found t source =>
    cases hd'
    refine ⟨_, rfl, ?_⟩
    rw [← Bool.not_eq_true, Decision.allowed_ofCount] at hdenied ⊢
    exact fun hcount => hdenied (Nat.le_trans hcount hle)

end Finding

variable (l : Limiter)

/-- What is found after the store is asked does not depend on the limit. -/
theorem exists_finding (name : String) (degraded : Bool) (cache : Cache) (now : Instant)
    (subject : Subject) (answer : Store.Answer)
    (hroom : ∀ e, cache.get? now subject.text = some e → e.count < maxCount) :
    ∃ (f : Finding) (mode : Bool), ∀ limit,
      let done := l.conclude name degraded cache now subject limit answer
      done.answer = f.answer now limit ∧ done.state = (mode, f.left cache subject.text limit) := by
  cases answer with
  | ok figures =>
    simp only [conclude, settle, Cache.overwrite]
    cases hzero : figures.ttl.isZero with
    | true => exact ⟨.refused (.closedWindow subject.text), false, fun limit => ⟨rfl, rfl⟩⟩
    | false =>
      cases hend : now.add? figures.ttl with
      | none =>
        simp only [Cache.windowEnd, hend]
        exact ⟨.refused (.clockOverflow figures.ttl), false, fun limit => ⟨rfl, rfl⟩⟩
      | some resetAt =>
        simp only [Cache.windowEnd, hend]
        refine ⟨.found ⟨figures.count, resetAt⟩ .store, false, fun limit => ⟨?_, rfl⟩⟩
        simp only [Finding.answer, Instant.since_of_add? hend]
        rfl
  | error failure =>
    simp only [conclude, settle, Cache.increment]
    cases hzero : l.window.isZero with
    | true => exact ⟨.refused (.zeroWindow subject.text), true, fun limit => ⟨rfl, rfl⟩⟩
    | false =>
      cases hget : cache.get? now subject.text with
      | some live =>
        simp only [hroom live hget, if_true]
        exact ⟨.found ⟨live.count + 1, live.resetAt⟩ .degraded, true, fun limit => ⟨rfl, rfl⟩⟩
      | none =>
        cases hend : now.add? l.window with
        | none =>
          simp only [Cache.windowEnd, hend]
          exact ⟨.refused (.clockOverflow l.window), true, fun limit => ⟨rfl, rfl⟩⟩
        | some resetAt =>
          simp only [Cache.windowEnd, hend]
          exact ⟨.found ⟨1, resetAt⟩ .degraded, true, fun limit => ⟨rfl, rfl⟩⟩

/-! ### Two checks -/

section

variable {σ : Type} (store : Store.Backend σ) (now : Instant) (tiers : Tiers σ)

/-- A check that finds room under a lower limit finds the same under a higher one. -/
theorem exists_finding_of_room (subject : Subject) {low high : Nat} (hlow : 0 < low)
    (hle : low ≤ high) (hword : high ≤ maxCount)
    (hroom : ∀ e, tiers.cache.get? now subject.text = some e → e.count < low) :
    ∃ (f : Finding) (mode : Bool) (left : σ), ∀ limit, limit = low ∨ limit = high →
      let done := l.check store now subject.text limit tiers
      done.answer = f.answer now limit ∧
        done.state = ⟨mode, f.left tiers.cache subject.text limit, left⟩ := by
  let served := store.increment tiers.store now ⟨subject.storeKey l.keyPrefix, l.window⟩
  obtain ⟨f, mode, hfinding⟩ := l.exists_finding store.name tiers.degraded tiers.cache now subject
    served.answer fun e he => Nat.lt_of_lt_of_le (hroom e he) (Nat.le_trans hle hword)
  refine ⟨f, mode, served.state, fun limit hlimit => ?_⟩
  have hlowest : low ≤ limit := hlimit.elim (fun h => Nat.le_of_eq h.symm) fun h => h ▸ hle
  obtain ⟨hanswer, hstate, -⟩ := l.check_of_room store now limit tiers
    (Nat.lt_of_lt_of_le hlow hlowest) subject
    fun e he => Nat.lt_of_lt_of_le (hroom e he) hlowest
  obtain ⟨hfound, hleft⟩ := hfinding limit
  refine ⟨hanswer.trans hfound, hstate.trans ?_⟩
  rw [hleft]

/-- The same check, in the same state and over the same store, under two limits of 64 bits. If it is
allowed under the lower one it is allowed under the higher one, with the same source and time to the
reset and with as many more calls remaining as the limit is higher, and the store, the mode and all
counts and windows of the cache are left the same. If it is denied under the higher limit it is
denied under the lower one. If the cache refuses the write under the higher limit, the check fails
in the same way under the lower one or is denied by a full entry. -/
theorem check_of_raised_limit (raw : String) {low high : Nat} (hlow : 0 < low) (hle : low ≤ high)
    (hword : high ≤ maxCount) :
    let lower := l.check store now raw low tiers
    let higher := l.check store now raw high tiers
    (∀ d, lower.answer = .ok d → d.allowed = true →
      (∃ d', higher.answer = .ok d' ∧ d'.allowed = true ∧ d'.source = d.source ∧
        d'.resetIn = d.resetIn ∧ d'.remaining = d.remaining + (high - low)) ∧
      higher.state.store = lower.state.store ∧ higher.state.degraded = lower.state.degraded ∧
      ∀ subject, (higher.state.cache.entries.get? subject).map Entry.tally =
        (lower.state.cache.entries.get? subject).map Entry.tally) ∧
    (∀ d', higher.answer = .ok d' → d'.allowed = false →
      ∃ d, lower.answer = .ok d ∧ d.allowed = false) ∧
    (∀ why, higher.answer = .error (.invariant why) →
      lower.answer = .error (.invariant why) ∨
        ∃ d, lower.answer = .ok d ∧ d.allowed = false ∧ d.source = .cache) := by
  intro lower higher
  by_cases hraw : raw = ""
  · -- without a subject both checks are rejected
    subst hraw
    have hrejected (limit : Nat) := (l.check_of_settled store now "" limit tiers rfl).1
    refine ⟨fun d hd => ?_, fun d' hd' => ?_, fun why hwhy => ?_⟩
    · cases (congrArg Effect.answer (hrejected low)).symm.trans hd
    · cases (congrArg Effect.answer (hrejected high)).symm.trans hd'
    · cases (congrArg Effect.answer (hrejected high)).symm.trans hwhy
  obtain ⟨subject, rfl⟩ : ∃ subject : Subject, subject.text = raw := ⟨⟨raw, hraw⟩, rfl⟩
  by_cases hfull : ∃ e, tiers.cache.get? now subject.text = some e ∧ low ≤ e.count
  · -- a full entry denies under the lower limit, whatever happens under the higher one
    obtain ⟨e, he, hcount⟩ := hfull
    have hdenied : lower.answer = .ok (.exhausted low (e.resetIn now)) :=
      (l.check_of_full store now low tiers hlow subject he hcount).1
    refine ⟨fun d hd hallowed => ?_, fun _ _ _ => ⟨_, hdenied, rfl⟩,
      fun _ _ => .inr ⟨_, hdenied, rfl, rfl⟩⟩
    cases hdenied.symm.trans hd
    cases hallowed
  · obtain ⟨f, mode, left, hfinding⟩ := l.exists_finding_of_room store now tiers subject hlow hle
      hword fun e he => Nat.lt_of_not_le fun hcount => hfull ⟨e, he, hcount⟩
    obtain ⟨hlower, hlowerState⟩ := hfinding low (.inl rfl)
    obtain ⟨hhigher, hhigherState⟩ := hfinding high (.inr rfl)
    refine ⟨fun d hd hallowed => ⟨?_, ?_⟩, fun d' hd' hdenied => ?_, fun why hwhy => .inl ?_⟩
    · obtain ⟨d', hd', hrest⟩ := Finding.answer_of_raised_limit hle (hlower.symm.trans hd) hallowed
      exact ⟨d', hhigher.trans hd', hrest⟩
    · simp only [lower, higher, hlowerState, hhigherState, true_and]
      exact f.map_tally_left tiers.cache subject.text high low
    · obtain ⟨d, hd, hsame⟩ :=
        Finding.answer_of_lowered_limit hle (hhigher.symm.trans hd') hdenied
      exact ⟨d, hlower.trans hd, hsame⟩
    · rw [hhigher] at hwhy
      rw [hlower]
      cases f with
      | refused reason => exact hwhy
      | found t source => cases hwhy

/-- An entry has counted two calls. Limits of three and five find room, and both take over the third
call from the store; under a limit of two the entry denies, while under the highest limit of all the
store is asked, names a closed window, and the cache refuses it. -/
theorem check_of_raised_limit_of_two_calls :
    let l : Limiter := { window := .ofSecs 60 }
    let store (figures : Store.WindowCount) : Store.Backend Nat :=
      ⟨"constant", fun calls _ _ => { answer := .ok figures, state := calls + 1 }⟩
    let tiers : Tiers Nat := { cache := Cache.empty.put "a" ⟨2, 9, ⟨20⟩⟩, store := 0 }
    let check (figures : Store.WindowCount) (limit : Nat) :=
      l.check (store figures) ⟨10⟩ "a" limit tiers
    (check ⟨3, ⟨7⟩⟩ 3).answer = .ok ⟨true, 3, 0, ⟨7⟩, .store⟩ ∧
      (∃ d, (check ⟨3, ⟨7⟩⟩ 5).answer = .ok d ∧ d.allowed = true ∧ d.source = .store ∧
        d.resetIn = ⟨7⟩ ∧ d.remaining = 2) ∧
      (check ⟨3, ⟨7⟩⟩ 5).state.store = 1 ∧
      (check ⟨3, .zero⟩ maxCount).answer = .error (.invariant (.closedWindow "a")) ∧
      ((check ⟨3, .zero⟩ 2).answer = .error (.invariant (.closedWindow "a")) ∨
        ∃ d, (check ⟨3, .zero⟩ 2).answer = .ok d ∧ d.allowed = false ∧ d.source = .cache) := by
  intro l store tiers check
  have hfrom (figures : Store.WindowCount) (low high : Nat) (hlow : 0 < low) (hle : low ≤ high)
      (hword : high ≤ maxCount) :=
    l.check_of_raised_limit (store figures) ⟨10⟩ tiers "a" hlow hle hword
  have hlower : (check ⟨3, ⟨7⟩⟩ 3).answer = .ok ⟨true, 3, 0, ⟨7⟩, .store⟩ := rfl
  have hrefused : (check ⟨3, .zero⟩ maxCount).answer = .error (.invariant (.closedWindow "a")) :=
    rfl
  obtain ⟨hraised, hstore, -⟩ := (hfrom ⟨3, ⟨7⟩⟩ 3 5 (by decide) (by decide)
    (by decide)).1 _ hlower rfl
  exact ⟨hlower, hraised, hstore.trans rfl, hrefused,
    (hfrom ⟨3, .zero⟩ 2 _ (by decide) (by decide) (Nat.le_refl _)).2.2 _ hrefused⟩

end

end Limiter

end FixedWindow
