import FixedWindow.CommandLine.Session
import FixedWindow.Proofs.Fleet.Failure

/-!
# What settings can be run with

Settings that pass validation name a window of at least one second, and no bound from above. The
clock has one: its last whole second is `2 ^ 63 - 1`. A limiter with a window of so many seconds at
most decides every check that is made while the clock can hold the window, and the clock's zero is
such a time. A limiter with a longer window has passed validation as well, but never decides
anything: neither tier can open a window for it, at whatever time.

## Main definitions

* `Instant.lastSecs`: the last whole second of the clock.

## Main results

* `Instant.isSome_zero_add?_ofSecs_iff`, `Instant.add?_ofSecs_eq_none`: the windows that the clock
  can hold.
* `Fleet.caches_step_of_long`, `Fleet.answer_check_of_long`: a limiter with a longer window leaves
  its cache empty and is refused.
* `Settings.answers_of_validate`: which settings that pass validation can be run with.
-/

namespace FixedWindow

/-! ### Windows that the clock can hold -/

namespace Instant

/-- The last whole second of the clock. -/
def lastSecs : Nat := 9223372036854775807

/-- From the clock's zero, windows up to the last whole second can be held. -/
theorem isSome_zero_add?_ofSecs_iff {secs : Nat} :
    (zero.add? (.ofSecs secs)).isSome = true ↔ secs ≤ lastSecs := by
  have hfits : zero.nanos + (Span.ofSecs secs).nanos ≤ last.nanos ↔ secs ≤ lastSecs := by
    simp only [zero, last, Span.ofSecs, nanosPerSec, lastSecs]
    omega
  rw [← hfits]
  unfold add?
  split <;> simp_all

/-- Longer windows cannot be held at any time. -/
theorem add?_ofSecs_eq_none (t : Instant) {secs : Nat} (h : lastSecs < secs) :
    t.add? (.ofSecs secs) = none := by
  rw [add?_eq_none_iff]
  simp only [last, Span.ofSecs, nanosPerSec, lastSecs] at h ⊢
  omega

end Instant

theorem Settings.window_ne_zero_of_validate {s : Settings} (hs : s.validate = .ok s) :
    s.limits.window ≠ .zero := by
  obtain ⟨-, -, -, hpos, -, -⟩ := unmet?_eq_none_iff.mp (validate_eq_ok_iff.mp hs).1
  intro hzero
  have hnanos : s.limits.windowSecs * nanosPerSec = 0 := congrArg Span.nanos hzero
  simp only [nanosPerSec] at hnanos
  omega

namespace Fleet

open Store (Relay Delivery)

/-! ### Windows beyond the clock -/

section Long

variable {members : Nat → Member} (hwindow : ∀ i, (members i).limiter.window ≠ .zero)
  (hlong : ∀ i (t : Instant), t.add? (members i).limiter.window = none) (name : String)
  {f : Fleet Relay} (hlast : f.store.inner.EndsBy Instant.last)
  (hempty : f.caches = fun _ => Cache.empty)

include hwindow hlong hlast hempty

/-- A check that neither tier can open a window for is refused. -/
theorem answer_check_of_long (i : Nat) (subject : Subject) {limit : Nat} {d : Delivery}
    (hplain : d.IsPlain) (hlimit : 0 < limit) (hword : limit ≤ maxCount) :
    let done := f.check members ((Relay.service name).backend d) i subject.text limit
    done.answer = .error (.invariant (.clockOverflow (members i).limiter.window)) ∧
      done.state.caches = f.caches := by
  intro done
  have hnone : f.live? (members i).cache subject.text = none := by
    rw [live?, hempty]
    rfl
  rcases decided_or_refused members name i subject hplain hlimit hword (hwindow i) hlast
    with ⟨-, hnot⟩ | ⟨-, hanswer, hcaches, -⟩
  · exact (hnot ⟨hnone, hlong i f.now⟩).elim
  · exact ⟨hanswer, hcaches⟩

/-- Limiters that no tier can open a window for leave the caches empty. -/
theorem caches_step_of_long {s : Step Delivery} (hvalid : s.IsValid)
    (hplain : s.OnCheck fun _ _ _ fares => fares.IsPlain) :
    (f.step members (Relay.service name) s).state.caches = fun _ => Cache.empty := by
  cases s with
  | set time => exact hempty
  | sweepStore => exact hempty
  | sweepCache i =>
    have hswept : ((f.caches (members i).cache).sweep f.now).state = Cache.empty := by
      rw [hempty]
      rfl
    funext j
    simp only [step, onCache, setAt, hswept]
    split
    · rfl
    · rw [hempty]
  | check i raw limit fares =>
    obtain ⟨hraw, hlimit, hword⟩ := hvalid
    exact (answer_check_of_long hwindow hlong name hlast hempty i ⟨raw, hraw⟩ hplain hlimit
      hword).2.trans hempty

end Long

end Fleet

/-! ### Settings that pass validation -/

open Fleet Store in
/-- A limiter for settings that pass validation, with an in-memory store whose calls succeed or
fail, decides every check that is made while the clock can hold the window. At the clock's zero
these are all checks, exactly if the window has no more seconds than the clock. A longer window
passes validation too, and then every check fails. -/
theorem Settings.answers_of_validate {s : Settings} (hs : s.validate = .ok s)
    (instanceId name : String) (steps : List (Step Delivery))
    (hsteps : ∀ x ∈ steps, x.IsValid ∧ x.OnCheck fun _ _ _ fares => fares.IsPlain) :
    let members (_ : Nat) : Member := ⟨s.limiter instanceId, 0⟩
    let ps := (fresh .zero).passages members (Relay.service name) steps
    (∀ p ∈ ps, p.step.OnCheck fun _ _ _ _ =>
        (p.before.now.add? s.limits.window).isSome = true → ∃ d, p.answer = some (.ok d)) ∧
      ((Instant.zero.add? s.limits.window).isSome = true ↔
        s.limits.windowSecs ≤ Instant.lastSecs) ∧
      (Instant.lastSecs < s.limits.windowSecs →
        ∀ p ∈ ps, p.step.OnCheck fun _ _ _ _ =>
          p.answer = some (.error (.invariant (.clockOverflow s.limits.window)))) := by
  intro members ps
  have hwindow := window_ne_zero_of_validate hs
  have hstart : (fresh .zero).store.inner.EndsBy Instant.last := Memory.endsBy_create _ _
  have hvalid := along_of_forall (P := fun _ x => x.IsValid ∧
    x.OnCheck fun _ _ _ fares => fares.IsPlain) (fun x hx _ => hsteps x hx) Instant.zero
  refine ⟨fun p hp => ?_, Instant.isSome_zero_add?_ofSecs_iff, fun hlong p hp => ?_⟩
  · obtain ⟨g, x, rfl, hlast, hx, hplain⟩ := forall_passages members (Relay.service name)
      (I := fun g => g.store.inner.EndsBy Instant.last)
      (fun _ _ hlast _ => endsBy_last_step name hlast) hstart hvalid p hp
    cases x with
    | set _ | sweepCache _ | sweepStore => trivial
    | check i raw limit fares =>
      obtain ⟨hraw, hlimit, hword⟩ := hx
      intro hreach
      rcases decided_or_refused members name i ⟨raw, hraw⟩ hplain hlimit hword hwindow hlast
        with ⟨⟨d, hanswer⟩, -⟩ | ⟨⟨-, hnone⟩, -⟩
      · exact ⟨d, congrArg some hanswer⟩
      · obtain ⟨newEnd, hend⟩ := Option.isSome_iff_exists.mp hreach
        cases hnone.symm.trans hend
  · have hnever (_ : Nat) (t : Instant) : t.add? s.limits.window = none :=
      t.add?_ofSecs_eq_none hlong
    obtain ⟨g, x, rfl, ⟨hlast, hempty⟩, hx, hplain⟩ :=
      forall_passages members (Relay.service name)
        (I := fun g => g.store.inner.EndsBy Instant.last ∧ g.caches = fun _ => Cache.empty)
        (fun _ _ hg hx => ⟨endsBy_last_step name hg.1,
          caches_step_of_long (fun _ => hwindow) hnever name hg.1 hg.2 hx.1 hx.2⟩)
        ⟨hstart, rfl⟩ hvalid p hp
    cases x with
    | set _ | sweepCache _ | sweepStore => trivial
    | check i raw limit fares =>
      obtain ⟨hraw, hlimit, hword⟩ := hx
      exact congrArg some (answer_check_of_long (fun _ => hwindow) hnever name hlast hempty i
        ⟨raw, hraw⟩ hplain hlimit hword).1

/-- Settings with the longest window that the clock can hold at its zero, and with the next one. The
first limiter decides every check, also while the store fails; the second one decides nothing. -/
theorem Settings.answers_of_validate_at_lastSecs :
    let settings (secs : Nat) : Settings :=
      { store := { backend := .memory }, limits := { windowSecs := secs } }
    let members (secs : Nat) (_ : Nat) : Member := ⟨(settings secs).limiter "node", 0⟩
    let steps : List (Fleet.Step Store.Delivery) :=
      [.check 0 "a" 2 .sound, .check 0 "a" 2 (.lostBefore .redis), .sweepCache 0,
        .check 0 "b" 1 (.lostAfter .redis), .check 0 "b" 1 .sound]
    let ps (secs : Nat) :=
      (Fleet.fresh .zero).passages (members secs) (Store.Relay.service "memory") steps
    let longest := Instant.lastSecs
    (settings longest).validate = .ok (settings longest) ∧
      (settings (longest + 1)).validate = .ok (settings (longest + 1)) ∧
      (∀ p ∈ ps longest, p.step.OnCheck fun _ _ _ _ =>
        (p.before.now.add? (.ofSecs longest)).isSome = true → ∃ d, p.answer = some (.ok d)) ∧
      (∀ p ∈ ps (longest + 1), p.step.OnCheck fun _ _ _ _ =>
        p.answer = some (.error (.invariant (.clockOverflow (.ofSecs (longest + 1)))))) ∧
      (ps longest).map (fun p => p.answer.map fun answer => answer.toOption.map Decision.source) =
        [some (some .store), some (some .degraded), none, some (some .degraded),
          some (some .cache)] := by
  intro settings members steps ps longest
  have hsteps : ∀ x ∈ steps, x.IsValid ∧ x.OnCheck fun _ _ _ fares => fares.IsPlain := by
    decide +zetaReduce
  have hlongest : (settings longest).validate = .ok (settings longest) :=
    validate_eq_ok_iff.mpr ⟨by decide, rfl⟩
  have hlonger : (settings (longest + 1)).validate = .ok (settings (longest + 1)) :=
    validate_eq_ok_iff.mpr ⟨by decide, rfl⟩
  obtain ⟨hdecides, -, -⟩ := answers_of_validate hlongest "node" "memory" steps hsteps
  obtain ⟨-, -, hfails⟩ := answers_of_validate hlonger "node" "memory" steps hsteps
  exact ⟨hlongest, hlonger, hdecides, hfails (by decide), by decide +kernel +zetaReduce⟩

end FixedWindow
