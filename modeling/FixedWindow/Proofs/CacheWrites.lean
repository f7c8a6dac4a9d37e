import FixedWindow.Proofs.Frame

/-!
# The writes to a cache

A cache is written to in two ways: an entry takes over figures obtained elsewhere, or it counts a
call by itself. Either write happens as a whole or not at all. It is refused exactly for want of a
window: the span is empty, or the clock cannot hold the end of a window that has to be opened. Then
the whole table is as it was, closed entries included. Otherwise the entry of the subject is written
and nothing else, and it is live.

A call is counted in a short way or in a long one. A live entry gains one, without a look at the end
of a new window. The long way goes step by step: the end of a new window is found, an entry is put
in place if none is held, it is started anew if its window has closed, and only then it gains one.
`Cache.increment` is the short way for a live entry and the long way for everything else. Both lead
to the same entry, so that taking the short way makes a difference only where the clock could not
hold a new window, which a live entry does not need.

## Main definitions

* `Cache.IsAtomic`: what a write that happens as a whole or not at all leaves behind.
* `Cache.started`, `Cache.addCall`, `Cache.incrementStepwise`: the long way, step by step.

## Main results

* `Cache.answer_overwrite_eq_error_iff`, `Cache.answer_increment_eq_error_iff`: when a write is
  refused, and why.
* `Cache.isAtomic_overwrite`, `Cache.isAtomic_increment`: either write is atomic.
* `Cache.increment_of_live`, `Cache.increment_of_not_live`: the two ways of counting a call.
* `Cache.increment_agrees_iff`: when the long way alone would have led to the same.
* `Cache.writes_atomic`: both writes, and the two ways of counting, over any table.
-/

namespace FixedWindow

namespace Cache

/-! ### Writes as a whole -/

/-- A write on a subject happens as a whole or not at all. If it fails, the cache is as it was. If
not, what it answers is what the subject then shows, in a window that is open. What is held of every
other subject stays, closed entries included. -/
structure IsAtomic (c : Cache) (now : Instant) (subject : String)
    (write : Effect Cache (Except LimitError Entry)) : Prop where
  kept : ∀ err, write.answer = .error err → write.state = c
  shown : ∀ e, write.answer = .ok e → write.state.get? now subject = some e
  live : ∀ e, write.answer = .ok e → now < e.resetAt
  others : ∀ other, other ≠ subject → write.state.entries.get? other = c.entries.get? other

/-- A write that puts the entry in place which it answers, or is refused, is atomic. -/
theorem AllOrNothing.isAtomic {c : Cache} {now : Instant} {subject : String}
    {Tells : Entry → Entry → Prop} {write : Effect Cache (Except LimitError Entry)}
    (h : c.AllOrNothing now subject Tells write.answer write.state)
    (htells : ∀ e a, Tells e a → a = e) : c.IsAtomic now subject write where
  kept err herr := (h.of_error herr).2
  shown a ha := by
    obtain ⟨e, hlive, he, hleft⟩ := h.of_ok ha
    obtain rfl := htells e a he
    rw [hleft]
    exact get?_eq_some_iff.mpr ⟨Table.get?_insert_self .., hlive⟩
  live a ha := by
    obtain ⟨e, hlive, he, -⟩ := h.of_ok ha
    obtain rfl := htells e a he
    exact hlive
  others other hother := by
    cases h with
    | refused why hanswer hleft => rw [hleft]
    | put e a hlive he hanswer hleft =>
      rw [hleft]
      exact Table.get?_insert_of_ne _ e hother

/-! ### Figures obtained elsewhere -/

section Overwrite

variable (c : Cache) {now : Instant} (subject : String) (count limit : Nat) {ttl : Span}

/-- Figures obtained elsewhere are refused if their window has closed or ends beyond the clock. -/
theorem answer_overwrite_eq_error_iff {err : LimitError} :
    (c.overwrite now subject count limit ttl).answer = .error err ↔
      (ttl = .zero ∨ now.add? ttl = none) ∧
        err = .invariant (if ttl = .zero then .closedWindow subject else .clockOverflow ttl) := by
  by_cases hclosed : ttl = .zero
  · subst hclosed
    simp only [if_true, true_or, true_and]
    exact ⟨fun h => (Except.error.inj h).symm, fun h => congrArg Except.error h.symm⟩
  · have hzero : ttl.isZero = false := Span.isZero_eq_false_iff.mpr hclosed
    simp only [hclosed, if_false, false_or, ← windowEnd_eq_error_iff, overwrite, hzero,
      Bool.false_eq_true]
    cases windowEnd now ttl with
    | error e => simp only [Except.error.injEq]
    | ok resetAt => simp only [reduceCtorEq]

theorem of_answer_overwrite_eq_ok {e : Entry}
    (h : (c.overwrite now subject count limit ttl).answer = .ok e) :
    e.count = count ∧ e.limit = limit ∧ now.add? ttl = some e.resetAt := by
  unfold overwrite at h
  split at h
  · cases h
  · split at h
    · cases h
    · rename_i resetAt hend
      cases h
      exact ⟨rfl, rfl, windowEnd_eq_ok_iff.mp hend⟩

theorem isAtomic_overwrite (ttl : Span) :
    c.IsAtomic now subject (c.overwrite now subject count limit ttl) :=
  (c.allOrNothing_overwrite subject count limit ttl).isAtomic fun _ _ h => h.1

end Overwrite

/-! ### The long way of counting a call -/

/-- The entry that is to count the next call of a subject: the one that is held, started anew if its
window has closed, and a fresh one if none is held. -/
def started (c : Cache) (now : Instant) (subject : String) (fresh : Entry) : Effect Cache Entry :=
  let held : Effect Cache Entry :=
    match c.entries.get? subject with
    | some e => { answer := e, state := c }
    | none => { answer := fresh, state := c.put subject fresh }
  if held.answer.isLive now then held
  else { answer := fresh, state := held.state.put subject fresh }

/-- Adds one call to the entry of a subject and notes the limit. A count at the end of its range
starts over at zero and aborts. -/
def addCall (c : Cache) (subject : String) (e : Entry) (limit : Nat) :
    Effect Cache (Except LimitError Entry) :=
  if e.count < maxCount then
    let counted : Entry := ⟨e.count + 1, limit, e.resetAt⟩
    { answer := .ok counted, state := c.put subject counted }
  else
    { answer := .error (.abort .countPastEnd), state := c.put subject { e with count := 0 } }

/-- Counts one call in the long way: the end of a new window is found first, whether or not a window
has to be opened, then the entry is made ready, and then it gains one. -/
def incrementStepwise (c : Cache) (now : Instant) (subject : String) (limit : Nat) (window : Span) :
    Effect Cache (Except LimitError Entry) :=
  if window.isZero then
    { answer := .error (.invariant (.zeroWindow subject)), state := c }
  else match windowEnd now window with
    | .error e => { answer := .error e, state := c }
    | .ok resetAt =>
      let ready := c.started now subject ⟨0, limit, resetAt⟩
      let counted := ready.state.addCall subject ready.answer limit
      { counted with
        log := counted.answer.toOption.toList.map fun e =>
          .entryIncremented subject e.count e.limit }

section Steps

variable (c : Cache) {now : Instant} (subject : String)

theorem put_put (e later : Entry) : (c.put subject e).put subject later = c.put subject later :=
  congrArg Cache.mk (Table.insert_insert ..)

theorem answer_addCall_ne_refused (e : Entry) (limit : Nat) (why : Refusal) :
    (c.addCall subject e limit).answer ≠ .error (.invariant why) := by
  unfold addCall
  split <;> nofun

theorem addCall_put (e e' : Entry) (limit : Nat) :
    (c.put subject e).addCall subject e' limit = c.addCall subject e' limit := by
  simp only [addCall, put_put]

/-- The entry that is made ready is the live one, or else a fresh one, and the call that it gains is
all that is left of the steps. -/
theorem addCall_started {fresh : Entry} (hfresh : now < fresh.resetAt) (limit : Nat) :
    let ready := c.started now subject fresh
    ready.state.addCall subject ready.answer limit =
      c.addCall subject ((c.get? now subject).getD fresh) limit := by
  have hlive : fresh.isLive now = true := decide_eq_true hfresh
  simp only [started, get?]
  -- whatever the first steps put in place is written over when the call is added
  cases c.entries.get? subject with
  | none => simp only [hlive, if_true, addCall_put, Option.filter_none, Option.getD_none]
  | some held =>
    cases hheld : held.isLive now with
    | true => simp only [hheld, if_true, Option.filter_some_pos, Option.getD_some]
    | false =>
      simp only [hheld, Bool.false_eq_true, if_false, addCall_put, Option.filter_some,
        Option.getD_none]

end Steps

/-! ### The two ways of counting a call -/

section Increment

variable {c : Cache} {now : Instant} {subject : String} (limit : Nat) {window : Span}

/-- A live entry gains one, whatever the end of a new window. -/
theorem increment_of_live (hwindow : window ≠ .zero) {live : Entry}
    (hlive : c.get? now subject = some live) :
    c.increment now subject limit window = c.addCall subject live limit := by
  have hzero : window.isZero = false := Span.isZero_eq_false_iff.mpr hwindow
  simp only [increment, hzero, hlive, Bool.false_eq_true, if_false, addCall]

theorem incrementStepwise_of_add? (hwindow : window ≠ .zero) {resetAt : Instant}
    (hend : now.add? window = some resetAt) :
    let counted := c.addCall subject ((c.get? now subject).getD ⟨0, limit, resetAt⟩) limit
    c.incrementStepwise now subject limit window =
      { counted with
        log := counted.answer.toOption.toList.map fun e =>
          .entryIncremented subject e.count e.limit } := by
  have hzero : window.isZero = false := Span.isZero_eq_false_iff.mpr hwindow
  have hfresh : now < (⟨0, limit, resetAt⟩ : Entry).resetAt := Instant.lt_of_add? hend hwindow
  simp only [incrementStepwise, hzero, windowEnd_eq_ok_iff.mpr hend, Bool.false_eq_true, if_false,
    c.addCall_started subject hfresh]

/-- Without a live entry a call is counted in the long way. -/
theorem increment_of_not_live (hnone : c.get? now subject = none) :
    c.increment now subject limit window = c.incrementStepwise now subject limit window := by
  by_cases hwindow : window = .zero
  · subst hwindow
    rfl
  cases hend : now.add? window with
  | none => simp only [increment, incrementStepwise, hnone, windowEnd, hend]
  | some resetAt =>
    have hzero : window.isZero = false := Span.isZero_eq_false_iff.mpr hwindow
    rw [incrementStepwise_of_add? limit hwindow hend, hnone]
    simp only [increment, hzero, hnone, windowEnd, hend, addCall]
    rfl

/-- A local call is refused if its window is empty, or if a window has to be opened and ends beyond
the clock. -/
theorem answer_increment_eq_error_iff
    (hroom : ∀ live, c.get? now subject = some live → live.count < maxCount) {err : LimitError} :
    (c.increment now subject limit window).answer = .error err ↔
      (window = .zero ∨ c.get? now subject = none ∧ now.add? window = none) ∧ err =
        .invariant (if window = .zero then .zeroWindow subject else .clockOverflow window) := by
  by_cases hwindow : window = .zero
  · subst hwindow
    simp only [if_true, true_or, true_and]
    exact ⟨fun h => (Except.error.inj h).symm, fun h => congrArg Except.error h.symm⟩
  · simp only [hwindow, if_false, false_or]
    cases hlive : c.get? now subject with
    | some live =>
      rw [increment_of_live limit hwindow hlive, addCall, if_pos (hroom live hlive)]
      simp only [reduceCtorEq, false_and]
    | none =>
      have hzero : window.isZero = false := Span.isZero_eq_false_iff.mpr hwindow
      simp only [true_and, ← windowEnd_eq_error_iff, increment, hzero, hlive, Bool.false_eq_true,
        if_false]
      cases windowEnd now window with
      | error e => simp only [Except.error.injEq]
      | ok resetAt => simp only [reduceCtorEq]

/-- A local call that is not refused leaves a live entry in its window with one more, and anything
else at one in a new window. -/
theorem of_answer_increment_eq_ok {e : Entry}
    (h : (c.increment now subject limit window).answer = .ok e) :
    (∀ live, c.get? now subject = some live → e = ⟨live.count + 1, limit, live.resetAt⟩) ∧
      (c.get? now subject = none →
        ∃ resetAt, now.add? window = some resetAt ∧ e = ⟨1, limit, resetAt⟩) := by
  unfold increment at h
  split at h
  · cases h
  · cases hlive : c.get? now subject with
    | some live =>
      simp only [hlive] at h
      split at h
      · cases h
        exact ⟨fun _ h => Option.some.inj h ▸ rfl, nofun⟩
      · cases h
    | none =>
      simp only [hlive] at h
      split at h
      · cases h
      · rename_i resetAt hend
        cases h
        exact ⟨nofun, fun _ => ⟨resetAt, windowEnd_eq_ok_iff.mp hend, rfl⟩⟩

theorem isAtomic_increment (window : Span)
    (hroom : ∀ live, c.get? now subject = some live → live.count < maxCount) :
    c.IsAtomic now subject (c.increment now subject limit window) :=
  (c.allOrNothing_increment subject window hroom).isAtomic fun _ _ h => h.1

/-- The long way alone would have led to the same unless a live entry is counted in while the clock
cannot hold a new window. -/
theorem increment_agrees_iff :
    let counted := c.increment now subject limit window
    let stepwise := c.incrementStepwise now subject limit window
    counted.answer = stepwise.answer ∧ counted.state = stepwise.state ↔
      window = .zero ∨ c.get? now subject = none ∨ now.add? window ≠ none := by
  intro counted stepwise
  by_cases hwindow : window = .zero
  · subst hwindow
    exact iff_of_true ⟨rfl, rfl⟩ (.inl rfl)
  cases hlive : c.get? now subject with
  | none =>
    have hsame : counted = stepwise := increment_of_not_live limit hlive
    rw [hsame]
    exact iff_of_true ⟨rfl, rfl⟩ (.inr (.inl rfl))
  | some live =>
    have hshort : counted = c.addCall subject live limit := increment_of_live limit hwindow hlive
    cases hend : now.add? window with
    | some resetAt =>
      have hlong : stepwise = _ := incrementStepwise_of_add? limit hwindow hend
      rw [hlive, Option.getD_some] at hlong
      rw [hshort, hlong]
      exact iff_of_true ⟨rfl, rfl⟩ (.inr (.inr nofun))
    | none =>
      have hzero : window.isZero = false := Span.isZero_eq_false_iff.mpr hwindow
      have hrefused : stepwise.answer = .error (.invariant (.clockOverflow window)) := by
        simp only [stepwise, incrementStepwise, hzero, windowEnd, hend, Bool.false_eq_true,
          if_false]
      refine iff_of_false (fun hsame => ?_) (by simp [hwindow])
      -- the live entry needs no new window, so the short way never asks for its end
      rw [hshort, hrefused] at hsame
      exact c.answer_addCall_ne_refused subject live limit _ hsame.1

end Increment

/-! ### Both writes -/

/-- Any table, with live and with closed entries, at any instant. Figures obtained elsewhere are
refused exactly if their window has closed or ends beyond the clock; they become the entry of the
subject. A call that is counted locally is refused exactly if its window is empty, or if no entry is
live and a new window ends beyond the clock; a live entry keeps its window and gains one, anything
else restarts at one in a new window, and the limit is noted. Either write is atomic. Without a live
entry a call is counted in the long way; with one, the long way alone leads to the same if the clock
can hold a new window, and to a refusal if it cannot. -/
theorem writes_atomic (c : Cache) (now : Instant) (subject : String) (count limit : Nat)
    (d : Span) :
    let live? := c.get? now subject
    let overwritten := c.overwrite now subject count limit d
    let counted := c.increment now subject limit d
    let stepwise := c.incrementStepwise now subject limit d
    ((∀ err, overwritten.answer = .error err ↔ (d = .zero ∨ now.add? d = none) ∧
            err = .invariant (if d = .zero then .closedWindow subject else .clockOverflow d)) ∧
          c.IsAtomic now subject overwritten ∧
          ∀ e, overwritten.answer = .ok e →
            e.count = count ∧ e.limit = limit ∧ now.add? d = some e.resetAt) ∧
      ((∀ live, live? = some live → live.count < maxCount) →
        (∀ err, counted.answer = .error err ↔ (d = .zero ∨ live? = none ∧ now.add? d = none) ∧
            err = .invariant (if d = .zero then .zeroWindow subject else .clockOverflow d)) ∧
          c.IsAtomic now subject counted ∧
          ∀ e, counted.answer = .ok e →
            (∀ live, live? = some live → e = ⟨live.count + 1, limit, live.resetAt⟩) ∧
              (live? = none → ∃ resetAt, now.add? d = some resetAt ∧ e = ⟨1, limit, resetAt⟩)) ∧
      (live? = none → counted = stepwise) ∧
      (counted.answer = stepwise.answer ∧ counted.state = stepwise.state ↔
        d = .zero ∨ live? = none ∨ now.add? d ≠ none) := by
  intro live? overwritten counted stepwise
  refine ⟨⟨fun err => ?_, ?_, fun e he => ?_⟩, fun hroom => ⟨fun err => ?_, ?_, fun e he => ?_⟩,
    increment_of_not_live limit, increment_agrees_iff limit⟩
  · exact c.answer_overwrite_eq_error_iff subject count limit
  · exact c.isAtomic_overwrite subject count limit d
  · exact c.of_answer_overwrite_eq_ok subject count limit he
  · exact answer_increment_eq_error_iff limit hroom
  · exact isAtomic_increment limit d hroom
  · exact of_answer_increment_eq_ok limit he

/-- A cache holds an entry that has closed and a live one with room for a single call. A window
that the clock cannot hold keeps the closed one from being counted in, and leaves it held; the live
one is counted in all the same, where the long way alone would have refused. In a window that the
clock can hold, the closed entry restarts, and both ways agree. Figures without an open window are
refused. -/
theorem writes_atomic_of_closed_and_live :
    let cache := (Cache.empty.put "closed" ⟨9, 1, ⟨5⟩⟩).put "live" ⟨maxCount - 1, 1, ⟨20⟩⟩
    let endless : Span := ⟨Instant.last.nanos⟩
    let count (subject : String) (d : Span) := cache.increment ⟨10⟩ subject 5 d
    let stepwise (subject : String) (d : Span) := cache.incrementStepwise ⟨10⟩ subject 5 d
    (∀ live, cache.get? ⟨10⟩ "live" = some live → live.count < maxCount) ∧
      (count "live" endless).answer = .ok ⟨maxCount, 5, ⟨20⟩⟩ ∧
      (count "live" endless).state.get? ⟨10⟩ "live" = some ⟨maxCount, 5, ⟨20⟩⟩ ∧
      (count "live" endless).state.entries.get? "closed" = some ⟨9, 1, ⟨5⟩⟩ ∧
      ¬ ((count "live" endless).answer = (stepwise "live" endless).answer ∧
        (count "live" endless).state = (stepwise "live" endless).state) ∧
      (∀ live, cache.get? ⟨10⟩ "closed" = some live → live.count < maxCount) ∧
      (count "closed" endless).answer = .error (.invariant (.clockOverflow endless)) ∧
      (count "closed" endless).state = cache ∧
      (count "closed" ⟨7⟩).answer = .ok ⟨1, 5, ⟨17⟩⟩ ∧
      (count "closed" ⟨7⟩).state = (stepwise "closed" ⟨7⟩).state ∧
      (cache.overwrite ⟨10⟩ "closed" 3 5 .zero).answer =
        .error (.invariant (.closedWindow "closed")) ∧
      (cache.overwrite ⟨10⟩ "closed" 3 5 .zero).state = cache := by
  intro cache endless count stepwise
  have hshown : cache.get? ⟨10⟩ "live" = some ⟨maxCount - 1, 1, ⟨20⟩⟩ := rfl
  have hnone : cache.get? ⟨10⟩ "closed" = none := rfl
  have hend : (⟨10⟩ : Instant).add? endless = none := rfl
  have hlive : ∀ live, cache.get? ⟨10⟩ "live" = some live → live.count < maxCount := by
    intro live h
    obtain rfl := Option.some.inj (hshown.symm.trans h)
    decide
  have hclosed : ∀ live, cache.get? ⟨10⟩ "closed" = some live → live.count < maxCount := by
    intro live h
    cases hnone.symm.trans h
  obtain ⟨-, hcounted, -, hagree⟩ := cache.writes_atomic ⟨10⟩ "live" 3 5 endless
  obtain ⟨-, hatomic, -⟩ := hcounted hlive
  obtain ⟨-, hcounted', -, -⟩ := cache.writes_atomic ⟨10⟩ "closed" 3 5 endless
  obtain ⟨hrefused, hatomic', -⟩ := hcounted' hclosed
  obtain ⟨-, -, hlong, -⟩ := cache.writes_atomic ⟨10⟩ "closed" 3 5 ⟨7⟩
  obtain ⟨⟨hfails, hwhole, -⟩, -⟩ := cache.writes_atomic ⟨10⟩ "closed" 3 5 .zero
  have hgained : (count "live" endless).answer = .ok ⟨maxCount, 5, ⟨20⟩⟩ := rfl
  have hdiffer : ¬ (endless = .zero ∨ cache.get? ⟨10⟩ "live" = none ∨
      (⟨10⟩ : Instant).add? endless ≠ none) := by
    rintro (h | h | h)
    · exact absurd h (by decide)
    · cases hshown.symm.trans h
    · exact h hend
  have herror := (hrefused (.invariant (.clockOverflow endless))).mpr ⟨.inr ⟨hnone, hend⟩, rfl⟩
  have herror' := (hfails (.invariant (.closedWindow "closed"))).mpr ⟨.inl rfl, rfl⟩
  exact ⟨hlive, hgained, hatomic.shown _ hgained, hatomic.others "closed" (by decide),
    fun h => hdiffer (hagree.mp h), hclosed, herror, hatomic'.kept _ herror, rfl,
    congrArg Effect.state (hlong hnone), herror', hwhole.kept _ herror'⟩

end Cache

end FixedWindow
