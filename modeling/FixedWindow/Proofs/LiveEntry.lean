import FixedWindow.Limiter

/-!
# What depends on the live entry

A cache goes on holding an entry whose window has closed until a sweep drops it, but nothing that is
done with the cache makes use of such an entry. What an operation on a subject answers, what it
writes to the log and which entry it puts in place depend on the cache only through the live entry
of the subject. A check is no exception, before the store is asked and after.

## Main definitions

* `Cache.putAny`: puts an entry in place, if there is one.
* `Cache.SeesLive`: an operation that depends on the live entry of its subject only.

## Main results

* `Cache.seesLive_overwrite`, `Cache.seesLive_increment`: the writes to a cache see live entries
  only, and write at most the entry of their subject.
* `Limiter.opening_congr`, `Limiter.conclude_seesLive`: so do the two parts of a check.
-/

namespace FixedWindow

namespace Cache

variable {α : Type} {now : Instant} {subject : String}

/-- Puts an entry in place, if there is one. -/
def putAny (c : Cache) (subject : String) : Option Entry → Cache
  | none => c
  | some e => c.put subject e

/-- An operation depends on the cache only through the live entry of a subject: on two caches that
show the same one it answers the same, writes the same events, and puts the same entry in place, if
it puts one in place at all. -/
def SeesLive (now : Instant) (subject : String) (op : Cache → Effect Cache α) : Prop :=
  ∀ c c' : Cache, c.get? now subject = c'.get? now subject →
    ∃ answer written log,
      op c = { answer := answer, state := c.putAny subject written, log := log } ∧
        op c' = { answer := answer, state := c'.putAny subject written, log := log }

theorem get?_putAny_congr {c c' : Cache} {other : String}
    (h : c.get? now other = c'.get? now other) (written : Option Entry) :
    (c.putAny subject written).get? now other = (c'.putAny subject written).get? now other := by
  cases written with
  | none => exact h
  | some e => simp only [putAny, get?_put, h]

theorem seesLive_overwrite (now : Instant) (subject : String) (count limit : Nat) (ttl : Span) :
    SeesLive now subject fun c => c.overwrite now subject count limit ttl := by
  intro c c' _
  simp only [overwrite]
  split
  · exact ⟨_, none, _, rfl, rfl⟩
  · split
    · exact ⟨_, none, _, rfl, rfl⟩
    · exact ⟨_, some _, _, rfl, rfl⟩

theorem seesLive_increment (now : Instant) (subject : String) (limit : Nat) (window : Span) :
    SeesLive now subject fun c => c.increment now subject limit window := by
  intro c c' h
  simp only [increment, h]
  split
  · exact ⟨_, none, _, rfl, rfl⟩
  · split
    -- a live entry counts on, or aborts at the end of its range
    · split
      · exact ⟨_, some _, _, rfl, rfl⟩
      · exact ⟨_, some _, _, rfl, rfl⟩
    -- without one a window is opened, or refused, whether or not a closed entry is held
    · split
      · exact ⟨_, none, _, rfl, rfl⟩
      · exact ⟨_, some _, _, rfl, rfl⟩

end Cache

namespace Limiter

variable (l : Limiter) {now : Instant}

/-- Before the store is asked, a check sees the live entry of its subject only. -/
theorem opening_congr {c c' : Cache} {raw : String} (h : c.get? now raw = c'.get? now raw)
    (limit : Nat) : l.opening c now raw limit = l.opening c' now raw limit := by
  unfold opening
  split
  · rfl
  · rfl
  · rename_i s _ hparse _
    rw [← Subject.text_of_parse hparse] at h
    rw [h]

theorem seesLive_settle {op : Cache → Effect Cache (Except LimitError Entry)} {subject : String}
    (hop : Cache.SeesLive now subject op) (decision : Entry → Decision) :
    Cache.SeesLive now subject fun c => settle subject (op c) decision := by
  intro c c' h
  obtain ⟨answer, written, log, hc, hc'⟩ := hop c c' h
  simp only [settle, hc, hc']
  cases answer with
  | error e => exact ⟨_, written, _, rfl, rfl⟩
  | ok entry => exact ⟨_, written, _, rfl, rfl⟩

/-- Whatever the store answers, the rest of a check sees the live entry of its subject only.
Degraded mode shows in the log and nowhere else. -/
theorem conclude_seesLive (store : String) (subject : Subject) (limit : Nat)
    (answer : Store.Answer) {c c' : Cache}
    (h : c.get? now subject.text = c'.get? now subject.text) :
    ∃ decided flag written, ∃ log : Bool → List Event, ∀ degraded,
      l.conclude store degraded c now subject limit answer =
          { answer := decided, state := (flag, c.putAny subject.text written),
            log := log degraded } ∧
        l.conclude store degraded c' now subject limit answer =
          { answer := decided, state := (flag, c'.putAny subject.text written),
            log := log degraded } := by
  cases answer with
  | ok figures =>
    obtain ⟨decided, written, log, hc, hc'⟩ := seesLive_settle
      (Cache.seesLive_overwrite now subject.text figures.count limit figures.ttl)
      (fun _ => .ofCount figures.count limit figures.ttl .store) c c' h
    simp only [conclude, hc, hc']
    exact ⟨decided, false, written, _, fun _ => ⟨rfl, rfl⟩⟩
  | error e =>
    obtain ⟨decided, written, log, hc, hc'⟩ := seesLive_settle
      (Cache.seesLive_increment now subject.text limit l.window)
      (fun entry => .ofCount entry.count limit (entry.resetIn now) .degraded) c c' h
    simp only [conclude, hc, hc']
    exact ⟨decided, true, written, _, fun _ => ⟨rfl, rfl⟩⟩

end Limiter

end FixedWindow
