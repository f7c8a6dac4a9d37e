import FixedWindow.Proofs.Tally
import FixedWindow.Store.Delivery

/-!
# Counting in the in-memory store

The store is read as a function from keys to tallies. A call whose window the clock can hold counts
in the tally of its key and leaves every other key alone; the pass over closed windows that it may
make on the way does not show. A call whose window the clock cannot hold changes nothing.

Between limiter and store a call may go astray. A delivery is *plain* when it succeeds, fails before
the call is applied, or fails after it.

## Main definitions

* `Store.Counter.tally`, `Store.Memory.tally?`, `Store.Relay.tally?`: the open window of a key.
* `Store.Delivery.IsPlain`, `Store.Delivery.Applies`.

## Main results

* `Store.Memory.answer_increment`, `Store.Memory.tally?_increment`: what a call is told, and what it
  leaves.
* `Store.Relay.tally?_increment`: what a call leaves, however it fares.
* `Store.Relay.sound_of_answer_ok`: a plain delivery that brings an answer is sound.
-/

namespace FixedWindow.Store

/-- The count and the window of a counter. -/
def Counter.tally (c : Counter) : Tally := ⟨c.count, c.expiresAt⟩

namespace Memory

/-- The open window of a key. -/
def tally? (m : Memory) (now : Instant) (key : String) : Option Tally :=
  (m.live? now key).map Counter.tally

theorem tally?_eq_open? (m : Memory) (now : Instant) (key : String) :
    m.tally? now key = Tally.open? ((m.counters.get? key).map Counter.tally) now := by
  rw [Tally.open?, Option.filter_map]
  rfl

theorem lt_of_tally? {m : Memory} {now : Instant} {key : String} {t : Tally}
    (h : m.tally? now key = some t) : now < t.closesAt := by
  rw [tally?_eq_open?] at h
  exact (Tally.open?_eq_some_iff.mp h).2

theorem tally?_later (m : Memory) {now later : Instant} (key : String) (h : now ≤ later) :
    m.tally? later key = Tally.open? (m.tally? now key) later := by
  simp only [tally?_eq_open?, Tally.open?_open? _ h]

@[simp] theorem tally?_sweep (m : Memory) (now : Instant) (key : String) :
    (m.sweep now).state.tally? now key = m.tally? now key := by
  simp only [tally?, live?_sweep]

theorem increment_of_add?_eq_none (m : Memory) {now : Instant} {call : Call}
    (h : now.add? call.window = none) :
    m.increment now call =
      { answer := .error (.protocol (.clockOverflow call.window)), state := m } := by
  simp only [increment, h]

theorem tally_next (m : Memory) (now newEnd : Instant) (key : String) :
    (Counter.next (m.live? now key) newEnd).tally = Tally.next (m.tally? now key) newEnd := by
  unfold tally?
  cases m.live? now key <;> rfl

/-- A call is told the tally that includes it. -/
theorem answer_increment (m : Memory) {now newEnd : Instant} {call : Call}
    (h : now.add? call.window = some newEnd) :
    (m.increment now call).answer =
      let t := Tally.next (m.tally? now call.key) newEnd
      .ok ⟨t.count, t.closesAt.since now⟩ := by
  simp only [increment, h, live?_sweepIfDue, ← tally_next]
  rfl

theorem tally?_increment_of_ne (m : Memory) (now : Instant) {call : Call} {other : String}
    (h : other ≠ call.key) :
    (m.increment now call).state.tally? now other = m.tally? now other := by
  unfold increment
  split
  · rfl
  · simp only [tally?_eq_open?, Table.get?_insert_of_ne _ _ h]
    rw [← tally?_eq_open?, ← tally?_eq_open?]
    exact congrArg _ (live?_sweepIfDue m now call.window other)

theorem tally?_increment_self (m : Memory) {now newEnd : Instant} {call : Call}
    (h : now.add? call.window = some newEnd) :
    (m.increment now call).state.tally? now call.key =
      Tally.open? (some (Tally.next (m.tally? now call.key) newEnd)) now := by
  rw [tally?_eq_open?]
  simp only [increment, h, Table.get?_insert_self, live?_sweepIfDue, Option.map_some, tally_next]

/-- A call counts in the tally of its key. -/
theorem tally?_increment (m : Memory) {now newEnd : Instant} {call : Call}
    (hwindow : call.window ≠ .zero) (h : now.add? call.window = some newEnd) :
    (m.increment now call).state.tally? now call.key =
      some (Tally.next (m.tally? now call.key) newEnd) := by
  have hopen : now < (Tally.next (m.tally? now call.key) newEnd).closesAt :=
    Tally.closesAt_next (fun _ => lt_of_tally?) fun _ => Instant.lt_of_add? h hwindow
  rw [tally?_increment_self m h, Tally.open?_of_lt hopen]

end Memory

/-! ### Calls that go astray -/

namespace Delivery

/-- The call succeeds, fails before it is applied, or fails after it. -/
def IsPlain : Delivery → Prop
  | sound | lostBefore _ | lostAfter _ => True
  | closed | forged _ => False

/-- The call succeeds, or is applied and then reported as failed. -/
def Applies : Delivery → Prop
  | sound | lostAfter _ => True
  | lostBefore _ | closed | forged _ => False

instance : DecidablePred IsPlain := fun d => by
  cases d <;> unfold IsPlain <;> infer_instance

instance : DecidablePred Applies := fun d => by
  cases d <;> unfold Applies <;> infer_instance

end Delivery

namespace Relay

/-- The open window of a key. -/
def tally? (r : Relay) (now : Instant) (key : String) : Option Tally := r.inner.tally? now key

@[simp] theorem tally?_sweep (r : Relay) (now : Instant) (key : String) :
    (r.sweep now).state.tally? now key = r.tally? now key :=
  Memory.tally?_sweep r.inner now key

theorem inner_increment (d : Delivery) (r : Relay) (now : Instant) (call : Call) :
    (r.increment d now call).state.inner = r.inner ∨
      (r.increment d now call).state.inner = (r.inner.increment now call).state := by
  cases d with
  | sound => exact .inr rfl
  | lostBefore e => exact .inl rfl
  | lostAfter e => exact .inr rfl
  | closed => exact .inr rfl
  | forged figures => exact .inl rfl

theorem tally?_increment_of_ne (d : Delivery) (r : Relay) (now : Instant) {call : Call}
    {other : String} (h : other ≠ call.key) :
    (r.increment d now call).state.tally? now other = r.tally? now other := by
  unfold tally?
  rcases inner_increment d r now call with hinner | hinner
  · rw [hinner]
  · rw [hinner, Memory.tally?_increment_of_ne r.inner now h]

/-- However a call fares, its key keeps its tally or gains the call. -/
theorem tally?_increment (d : Delivery) (r : Relay) (now : Instant) (call : Call)
    (hwindow : call.window ≠ .zero) :
    (r.increment d now call).state.tally? now call.key = r.tally? now call.key ∨
      ∃ newEnd, now.add? call.window = some newEnd ∧
        (r.increment d now call).state.tally? now call.key =
          some (Tally.next (r.tally? now call.key) newEnd) := by
  unfold tally?
  rcases inner_increment d r now call with hinner | hinner
  · exact .inl (by rw [hinner])
  · cases hend : now.add? call.window with
    | none => exact .inl (by rw [hinner, Memory.increment_of_add?_eq_none r.inner hend])
    | some newEnd =>
      exact .inr ⟨newEnd, rfl, by rw [hinner, Memory.tally?_increment r.inner hwindow hend]⟩

theorem tally?_increment_of_applies {d : Delivery} (hd : d.Applies) (r : Relay)
    {now newEnd : Instant} (call : Call) (hwindow : call.window ≠ .zero)
    (hend : now.add? call.window = some newEnd) :
    (r.increment d now call).state.tally? now call.key =
      some (Tally.next (r.tally? now call.key) newEnd) := by
  have hinner : (r.increment d now call).state.inner = (r.inner.increment now call).state := by
    cases d with
    | sound | lostAfter e => rfl
    | lostBefore e | closed | forged figures => exact hd.elim
  simp only [tally?, hinner, Memory.tally?_increment r.inner hwindow hend]

theorem answer_increment_sound (r : Relay) {now newEnd : Instant} (call : Call)
    (hend : now.add? call.window = some newEnd) :
    (r.increment .sound now call).answer =
      let t := Tally.next (r.tally? now call.key) newEnd
      .ok ⟨t.count, t.closesAt.since now⟩ :=
  Memory.answer_increment r.inner hend

theorem answer_increment_lostAfter (r : Relay) (e : StoreError) {now newEnd : Instant}
    (call : Call) (hend : now.add? call.window = some newEnd) :
    (r.increment (.lostAfter e) now call).answer = .error e := by
  simp only [increment, deliver, answerWith, Memory.answer_increment r.inner hend]
  rfl

theorem increment_of_add?_eq_none {d : Delivery} (hd : d.IsPlain) (r : Relay) {now : Instant}
    (call : Call) (hend : now.add? call.window = none) :
    (∃ e, (r.increment d now call).answer = .error e) ∧
      (r.increment d now call).state.inner = r.inner := by
  have hrefused := Memory.increment_of_add?_eq_none r.inner hend
  cases d with
  | sound => exact ⟨⟨_, congrArg Effect.answer hrefused⟩, congrArg Effect.state hrefused⟩
  | lostBefore e => exact ⟨⟨e, rfl⟩, rfl⟩
  | lostAfter e =>
    simp only [increment, deliver, answerWith, hrefused]
    exact ⟨⟨_, rfl⟩, trivial⟩
  | closed | forged figures => exact hd.elim

/-- A plain call that is answered is sound, and the clock can hold its window. -/
theorem sound_of_answer_ok {d : Delivery} (hd : d.IsPlain) {r : Relay} {now : Instant}
    {call : Call} {figures : WindowCount} (h : (r.increment d now call).answer = .ok figures) :
    d = .sound ∧ ∃ newEnd, now.add? call.window = some newEnd := by
  cases d with
  | sound =>
    refine ⟨rfl, ?_⟩
    cases hend : now.add? call.window with
    | none =>
      have hrefused := congrArg Effect.answer (Memory.increment_of_add?_eq_none r.inner hend)
      cases hrefused.symm.trans h
    | some newEnd => exact ⟨newEnd, rfl⟩
  | lostBefore e => cases h
  | lostAfter e =>
    simp only [increment, deliver, answerWith] at h
    cases hinner : (r.inner.increment now call).answer <;> rw [hinner] at h <;> cases h
  | closed | forged figures => exact hd.elim

end Relay

end FixedWindow.Store
