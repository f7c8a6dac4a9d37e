import FixedWindow.Proofs.Fleet.Sight

/-!
# What a check comes to

A check of a subject over a shared in-memory store ends in one of four ways. A full local tally
denies it; the store counts it and is heard; it is counted locally, whether or not the store counted
it as well; or it is refused, because no window is open and the clock cannot hold a new one.

## Main definitions

* `Fleet.Outcome`: the four ways, each with what is told and what is left in both tiers.

## Main results

* `Fleet.outcome_check`: a check with a plain delivery ends in one of them.
-/

namespace FixedWindow.Fleet

open Store (Relay Delivery)

/-- The ways in which a check of a subject ends, with what it is told and what it leaves. -/
inductive Outcome (members : Nat → Member) (f : Fleet Relay) (i : Nat) (subject : Subject)
    (limit : Nat) (key : String) (done : Effect (Fleet Relay) (Except LimitError Decision)) : Prop
  /-- A full local tally denies the check. -/
  | denied (t : Tally) (ht : f.cached? (members i).cache subject.text = some t)
      (hfull : limit ≤ t.count)
      (hanswer : done.answer = .ok (.exhausted limit (t.closesAt.since f.now)))
      (hstate : done.state = f)
  /-- The store counts the check and is heard. -/
  | answered (newEnd : Instant) (hend : f.now.add? (members i).limiter.window = some newEnd)
      (hroom : ∀ t, f.cached? (members i).cache subject.text = some t → t.count < limit)
      (hadopts : f.Adopts (members i).cache subject.text limit
        (Tally.next (f.stored? key) newEnd) .store done)
      (hstored : done.state.stored? key = some (Tally.next (f.stored? key) newEnd))
  /-- The check is counted locally; the store may have counted it without being heard. -/
  | counted (newEnd : Instant)
      (hend : f.cached? (members i).cache subject.text = none →
        f.now.add? (members i).limiter.window = some newEnd)
      (hroom : ∀ t, f.cached? (members i).cache subject.text = some t → t.count < limit)
      (hadopts : f.Adopts (members i).cache subject.text limit
        (Tally.next (f.cached? (members i).cache subject.text) newEnd) .degraded done)
      (hstored : done.state.stored? key = f.stored? key ∨
        f.now.add? (members i).limiter.window = some newEnd ∧
          done.state.stored? key = some (Tally.next (f.stored? key) newEnd))
  /-- No window is open, and the clock cannot hold a new one. -/
  | refused (hnone : f.cached? (members i).cache subject.text = none)
      (hend : f.now.add? (members i).limiter.window = none)
      (hanswer : done.answer = .error (.invariant (.clockOverflow (members i).limiter.window)))
      (hcaches : done.state.caches = f.caches)
      (hstored : done.state.stored? key = f.stored? key)

variable {members : Nat → Member} {keyPrefix : String}
  (hshared : ∀ i, (members i).limiter.keyPrefix = keyPrefix) {f : Fleet Relay}

include hshared

/-- A check with a plain delivery ends in one of the four ways, provided that the windows of the
store end within the clock. -/
theorem outcome_check (name : String) (i : Nat) (subject : Subject) {limit : Nat} {d : Delivery}
    (hplain : d.IsPlain) (hlimit : 0 < limit) (hword : limit ≤ maxCount)
    (hwindow : (members i).limiter.window ≠ .zero)
    (hlast : ∀ u, f.stored? (subject.storeKey keyPrefix) = some u → u.closesAt ≤ Instant.last) :
    f.Outcome members i subject limit (subject.storeKey keyPrefix)
      (f.check members ((Relay.service name).backend d) i subject.text limit) := by
  rcases f.full_or_room (members i).cache subject.text limit with ⟨t, ht, hfull⟩ | hroom
  · rw [check_of_full members i hlimit _ ht hfull]
    exact .denied t ht hfull rfl rfl
  rw [check_of_room members i hlimit hroom]
  have hcount : ∀ t, f.cached? (members i).cache subject.text = some t → t.count < maxCount :=
    fun t ht => Nat.lt_of_lt_of_le (hroom t ht) hword
  cases hend : f.now.add? (members i).limiter.window with
  | some newEnd =>
    cases d with
    | sound =>
      obtain ⟨hadopts, hstored⟩ := ask_sound hshared name i subject limit hwindow hend hlast
      exact .answered newEnd hend hroom hadopts hstored
    | lostBefore e =>
      exact .counted newEnd (fun _ => hend) hroom
        (ask_of_failure members i limit _ (e := e) rfl hwindow (fun _ => hend) hcount) (.inl rfl)
    | lostAfter e =>
      have hlost := Relay.answer_increment_lostAfter f.store e (call members i subject) hend
      exact .counted newEnd (fun _ => hend) hroom
        (ask_of_failure members i limit _ hlost hwindow (fun _ => hend) hcount)
        (.inr ⟨hend, stored?_ask hshared name i subject limit hwindow hend trivial⟩)
    | closed | forged figures => exact hplain.elim
  | none =>
    obtain ⟨⟨e, hfails⟩, hinner⟩ := Relay.increment_of_add?_eq_none hplain f.store
      (call members i subject) hend
    have hstored : (f.ask members ((Relay.service name).backend d) i subject limit).state.stored?
        (subject.storeKey keyPrefix) = f.stored? (subject.storeKey keyPrefix) :=
      congrArg (Store.Memory.tally? · f.now _) hinner
    cases hcached : f.cached? (members i).cache subject.text with
    | none =>
      obtain ⟨hanswer, hcaches⟩ := ask_of_refusal members i limit
        ((Relay.service name).backend d) hfails hwindow hcached hend
      exact .refused hcached hend hanswer hcaches hstored
    | some t =>
      -- an open window needs no new end, so that any instant will do
      have hopen : f.cached? (members i).cache subject.text = none →
          f.now.add? (members i).limiter.window = some f.now := fun hnone => by
        cases hcached.symm.trans hnone
      exact .counted f.now hopen hroom
        (ask_of_failure members i limit ((Relay.service name).backend d) hfails hwindow hopen
          hcount) (.inl hstored)

end FixedWindow.Fleet
