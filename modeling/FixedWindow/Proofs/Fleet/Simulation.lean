import FixedWindow.Proofs.Check
import FixedWindow.Proofs.Fleet.Timeline

/-!
# Stores that answer alike

Limiters know of a store only what it answers to their calls. Two stores are kept side by side by a
relation of their states under which every call is answered alike, and which calls, passes over the
store and time preserve. Then it makes no difference over which of the two a run is made. The
relation may depend on how many calls are still to come, so that a store whose numbers are bounded
can be related to one without a bound.

## Main definitions

* `Fleet.Step.isCheck`: whether a step may call the store.
* `Fleet.Simulation`: a relation of two stores that a run keeps.
* `Fleet.InStep`: two fleets that differ in their stores only, with the stores related.

## Main results

* `Limiter.check_alike`: a check over two stores that answer alike.
* `Fleet.Simulation.step`, `Fleet.Simulation.answer_run`: a step, and a run, over both.
-/

namespace FixedWindow

variable {σ τ δ : Type}

/-! ### One limiter -/

namespace Limiter

variable (l : Limiter)

theorem conclude_alike (store other : String) (degraded degraded' : Bool) (cache : Cache)
    (now : Instant) (subject : Subject) (limit : Nat) (answer : Store.Answer) :
    let done := l.conclude store degraded cache now subject limit answer
    let done' := l.conclude other degraded' cache now subject limit answer
    done.answer = done'.answer ∧ done.state = done'.state := by
  cases answer <;> exact ⟨rfl, rfl⟩

/-- Over two stores that answer the calls of a limiter alike, a check is told the same and leaves
the same in the cache. It calls both stores, for the same subject, or neither. -/
theorem check_alike (store : Store.Backend σ) (other : Store.Backend τ) (now : Instant)
    (raw : String) (limit : Nat) {t : Tiers σ} {u : Tiers τ} (hcache : t.cache = u.cache)
    (hanswer : ∀ s : Subject,
      (store.increment t.store now ⟨s.storeKey l.keyPrefix, l.window⟩).answer =
        (other.increment u.store now ⟨s.storeKey l.keyPrefix, l.window⟩).answer) :
    let done := l.check store now raw limit t
    let done' := l.check other now raw limit u
    done.answer = done'.answer ∧ done.state.cache = done'.state.cache ∧
      ((done.state.store = t.store ∧ done'.state.store = u.store) ∨
        ∃ s : Subject,
          done.state.store =
              (store.increment t.store now ⟨s.storeKey l.keyPrefix, l.window⟩).state ∧
            done'.state.store =
              (other.increment u.store now ⟨s.storeKey l.keyPrefix, l.window⟩).state) := by
  simp only [check_eq, ← hcache]
  split
  · exact ⟨rfl, hcache, .inl ⟨rfl, rfl⟩⟩
  · rename_i s call hask
    obtain ⟨-, rfl⟩ := l.of_opening_eq_ask hask
    obtain ⟨htold, hstate⟩ := l.conclude_alike store.name other.name t.degraded u.degraded t.cache
      now s limit (store.increment t.store now ⟨s.storeKey l.keyPrefix, l.window⟩).answer
    rw [← hanswer s]
    exact ⟨htold, congrArg Prod.snd hstate, .inr ⟨s, rfl, rfl⟩⟩

end Limiter

/-! ### Runs -/

namespace Fleet

/-- Whether the step is a check. -/
def Step.isCheck : Step δ → Bool
  | check .. => true
  | set _ | sweepCache _ | sweepStore => false

/-- A relation of the states of two stores, at an instant and with a number of checks to come. The
calls of the limiters are answered alike and use up one check each; passes over the stores and time
preserve the relation. Steps are taken under a condition on the step and the clock. -/
structure Simulation (members : Nat → Member) (service : Store.Service σ δ)
    (other : Store.Service τ δ) (P : Instant → Step δ → Prop)
    (R : Nat → Instant → σ → τ → Prop) : Prop where
  set : ∀ {left now time s t}, P now (.set time) → R left now s t → R left time s t
  fewer : ∀ {left now s t}, R (left + 1) now s t → R left now s t
  sweep : ∀ {left now s t}, R left now s t →
    R left now (service.sweep s now).state (other.sweep t now).state
  call : ∀ {left now s t i raw limit fares} (subject : Subject),
    P now (.check i raw limit fares) → R (left + 1) now s t →
      let call : Store.Call :=
        ⟨subject.storeKey (members i).limiter.keyPrefix, (members i).limiter.window⟩
      let done := (service.backend fares).increment s now call
      let done' := (other.backend fares).increment t now call
      done.answer = done'.answer ∧ R left now done.state done'.state

/-- Two fleets at the same instant with the same caches, whose stores are related. -/
structure InStep (R : Nat → Instant → σ → τ → Prop) (left : Nat) (f : Fleet σ) (g : Fleet τ) :
    Prop where
  now : f.now = g.now
  caches : f.caches = g.caches
  stores : R left f.now f.store g.store

namespace Simulation

variable {members : Nat → Member} {service : Store.Service σ δ} {other : Store.Service τ δ}
  {P : Instant → Step δ → Prop} {R : Nat → Instant → σ → τ → Prop}
  (h : Simulation members service other P R) {f : Fleet σ} {g : Fleet τ}

include h

/-- A check is answered alike, and uses up one of those to come. -/
theorem check {left : Nat} (hf : InStep R (left + 1) f g) {i : Nat} {raw : String} {limit : Nat}
    {fares : δ} (hP : P f.now (.check i raw limit fares)) :
    let done := f.check members (service.backend fares) i raw limit
    let done' := g.check members (other.backend fares) i raw limit
    done.answer = done'.answer ∧ InStep R left done.state done'.state := by
  obtain ⟨now, degraded, caches, s⟩ := f
  obtain ⟨now', degraded', caches', t⟩ := g
  obtain ⟨rfl, rfl, hstores⟩ : now = now' ∧ caches = caches' ∧ R (left + 1) now s t :=
    ⟨hf.now, hf.caches, hf.stores⟩
  obtain ⟨hanswer, hcache, hstore⟩ := (members i).limiter.check_alike (service.backend fares)
    (other.backend fares) now raw limit
    (t := ⟨degraded i, caches (members i).cache, s⟩)
    (u := ⟨degraded' i, caches (members i).cache, t⟩) rfl
    fun subject => (h.call subject hP hstores).1
  refine ⟨hanswer, rfl, congrArg (setAt caches (members i).cache) hcache, ?_⟩
  rcases hstore with ⟨hs, ht⟩ | ⟨subject, hs, ht⟩
  · simpa only [Fleet.check, tiers, hs, ht] using h.fewer hstores
  · simpa only [Fleet.check, tiers, hs, ht] using (h.call subject hP hstores).2

/-- A step is answered alike over both stores, and keeps the fleets in step. -/
theorem step {left : Nat} {s : Step δ} (hP : P f.now s)
    (hf : InStep R (left + if s.isCheck then 1 else 0) f g) :
    (f.step members service s).answer = (g.step members other s).answer ∧
      InStep R left (f.step members service s).state (g.step members other s).state := by
  cases s with
  | set time => exact ⟨rfl, rfl, hf.caches, h.set hP hf.stores⟩
  | check i raw limit fares =>
    obtain ⟨hanswer, hstep⟩ := h.check hf hP
    exact ⟨congrArg some hanswer, hstep⟩
  | sweepCache i =>
    refine ⟨rfl, hf.now, ?_, hf.stores⟩
    simp only [Fleet.step, onCache, hf.caches, hf.now]
  | sweepStore =>
    have hswept : R left f.now (service.sweep f.store f.now).state
        (other.sweep g.store f.now).state := h.sweep hf.stores
    refine ⟨rfl, hf.now, hf.caches, ?_⟩
    simpa only [Fleet.step, onStore, hf.now] using hswept

/-- A run is answered alike over both stores. -/
theorem answer_run {steps : List (Step δ)} (hf : InStep R (steps.countP Step.isCheck) f g)
    (hP : Along P f.now steps) :
    (f.run members service steps).answer = (g.run members other steps).answer := by
  induction steps generalizing f g with
  | nil => rfl
  | cons s rest ih =>
    rw [List.countP_cons] at hf
    obtain ⟨hanswer, hstep⟩ := h.step hP.1 hf
    exact List.cons_eq_cons.mpr ⟨hanswer, ih hstep (along_after members service hP)⟩

end Simulation

end Fleet

end FixedWindow
