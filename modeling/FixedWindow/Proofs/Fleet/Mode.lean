import FixedWindow.Proofs.Fleet.Server
import FixedWindow.Proofs.Fleet.Timeline
import Mathlib.Data.List.Chain

/-!
# Degraded mode

A limiter is in degraded mode from a store call that fails until one that is answered. It says so
in the log, by a warning when it enters the mode and by a notice when it leaves it, and at no other
time. Rejected arguments and denials of the cache never reach the store and leave the mode alone;
so do the checks of other limiters, also of those that work on the same cache. What the cache makes
of an answer comes too late to matter: an answer that it refuses ends degraded mode all the same.

## Main definitions

* `Event.isModeChange`: the events for entering and for leaving degraded mode.
* `Store.Service.IsQuiet`: a store leaves these events to the limiters.
* `Limiter.modeEvents`: those that an answer of the store calls for.
* `Fleet.repliesTo`, `Fleet.modeChanges`: what the store told a limiter in a run, and the levels of
  the changes of mode that the limiter wrote of.

## Main results

* `Fleet.mode_check`, `Fleet.mode_step`: what one check, and any step, makes of the mode of a
  limiter.
* `Fleet.mode_run`, `Fleet.mode_follows_store`: what a run makes of it.
-/

namespace FixedWindow

/-- The event tells of a limiter that enters degraded mode or leaves it. -/
def Event.isModeChange : Event → Bool
  | becameDegraded .. | recovered .. => true
  | _ => false

theorem Event.level_of_isModeChange {event : Event} (h : event.isModeChange = true) :
    event.level = .warn ∨ event.level = .info := by
  cases event with
  | becameDegraded => exact .inl rfl
  | recovered => exact .inr rfl
  | _ => cases h

/-- The level of the change that leads into a mode. -/
def modeLevel (degraded : Bool) : Level := if degraded then .warn else .info

/-! ### Quiet stores -/

namespace Store

/-- The store leaves it to the limiters to write of their mode. -/
def Service.IsQuiet {σ δ : Type} (service : Service σ δ) : Prop :=
  ∀ fares s now call,
    ((service.backend fares).increment s now call).log.filter Event.isModeChange = []

theorem Memory.filter_log_increment (m : Memory) (now : Instant) (call : Call) :
    (m.increment now call).log.filter Event.isModeChange = [] := by
  unfold increment sweepIfDue
  split
  · rfl
  · split
    · rfl
    · simp only
      split <;> rfl

theorem Relay.isQuiet_service (name : String) : (service name).IsQuiet := by
  intro fares s now call
  cases fares with
  | sound | lostAfter e | closed => exact s.inner.filter_log_increment now call
  | lostBefore e | forged figures => rfl

end Store

theorem Redis.Client.isQuiet_service {σ : Type} (peer : Redis.Peer σ) :
    (service peer).IsQuiet := by
  intro fares c now call
  simp only [service, backend, Store.Fragile.guarded, store, increment]
  cases Redis.readTransaction c.timeout (peer.run c.server now (Redis.transaction call)).1 with
  | error why => rfl
  | ok answer =>
    cases answer with
    | ok figures => rfl
    | error e => cases e <;> rfl

/-! ### One check -/

namespace Cache

theorem filter_log_overwrite (c : Cache) (now : Instant) (subject : String) (count limit : Nat)
    (ttl : Span) :
    (c.overwrite now subject count limit ttl).log.filter Event.isModeChange = [] := by
  unfold overwrite
  split
  · rfl
  · split <;> rfl

theorem filter_log_increment (c : Cache) (now : Instant) (subject : String) (limit : Nat)
    (window : Span) :
    (c.increment now subject limit window).log.filter Event.isModeChange = [] := by
  unfold increment
  split
  · rfl
  · split
    · split <;> rfl
    · split <;> rfl

end Cache

namespace Limiter

variable (l : Limiter)

/-- The changes of mode that an answer of the store calls for: into degraded mode by a failure, out
of it by anything else. -/
def modeEvents (store : String) (degraded : Bool) : Store.Answer → List Event
  | .ok _ => if degraded then [.recovered l.instanceId store] else []
  | .error e => if degraded then [] else [.becameDegraded l.instanceId store e]

theorem map_level_modeEvents (store : String) (degraded : Bool) (answer : Store.Answer) :
    (l.modeEvents store degraded answer).map Event.level =
      if degraded = !answer.isOk then [] else [modeLevel !answer.isOk] := by
  cases answer <;> cases degraded <;> rfl

theorem filter_log_opening {cache : Cache} {now : Instant} {raw : String} {limit : Nat}
    {answer : Except LimitError Decision} {log : List Event}
    (h : l.opening cache now raw limit = .settled answer log) :
    log.filter Event.isModeChange = [] := by
  unfold opening at h
  split at h
  · cases h; rfl
  · cases h; rfl
  · split at h
    · cases h; rfl
    · cases h

theorem filter_log_settle (subject : String) {write : Effect Cache (Except LimitError Entry)}
    (decision : Entry → Decision) (h : write.log.filter Event.isModeChange = []) :
    (settle subject write decision).log.filter Event.isModeChange = [] := by
  unfold settle
  split
  · exact h
  · simp only [List.filter_append, h]
    rfl

/-- Whether the store's answer is a failure settles the mode, whatever the cache makes of it. -/
theorem mode_conclude (store : String) (degraded : Bool) (cache : Cache) (now : Instant)
    (subject : Subject) (limit : Nat) (answer : Store.Answer) :
    let done := l.conclude store degraded cache now subject limit answer
    done.state.1 = !answer.isOk ∧
      done.log.filter Event.isModeChange = l.modeEvents store degraded answer := by
  cases answer with
  | ok figures =>
    refine ⟨rfl, ?_⟩
    simp only [conclude, List.filter_append,
      filter_log_settle _ _ (cache.filter_log_overwrite now subject.text figures.count limit
        figures.ttl), List.append_nil, recoveryEvents, modeEvents]
    cases degraded <;> rfl
  | error e =>
    refine ⟨rfl, ?_⟩
    simp only [conclude, List.filter_cons,
      filter_log_settle _ _ (cache.filter_log_increment now subject.text limit l.window),
      failureEvent, modeEvents]
    cases degraded <;> rfl

end Limiter

namespace Fleet

open Store (Relay Delivery)

variable {σ δ : Type}

/-- The step is a check through the limiter numbered `i`. -/
def Step.isBy (i : Nat) : Step δ → Bool
  | check j .. => j = i
  | set _ | sweepCache _ | sweepStore => false

/-- What the store told the limiter numbered `i` in a passage. -/
def Passage.replyTo (i : Nat) (p : Passage σ δ) : Option Store.Answer :=
  if p.step.isBy i then p.reply else none

/-- The levels of the changes of mode that the limiter numbered `i` wrote of in a passage. -/
def Passage.changesOf (i : Nat) (p : Passage σ δ) : List FixedWindow.Level :=
  if p.step.isBy i then (p.effect.log.filter Event.isModeChange).map Event.level else []

/-- What the store told the limiter numbered `i`, oldest first. -/
def repliesTo (i : Nat) (ps : List (Passage σ δ)) : List Store.Answer :=
  ps.filterMap (·.replyTo i)

/-- The levels of the changes of mode that the limiter numbered `i` wrote of, oldest first. -/
def modeChanges (i : Nat) (ps : List (Passage σ δ)) : List FixedWindow.Level :=
  ps.flatMap (·.changesOf i)

variable (members : Nat → Member) {service : Store.Service σ δ}

theorem degraded_step_of_not_isBy (service : Store.Service σ δ) (f : Fleet σ) {i : Nat}
    {s : Step δ} (hs : s.isBy i = false) :
    (f.step members service s).state.degraded i = f.degraded i := by
  cases s with
  | check j raw limit fares =>
    have hne : i ≠ j := fun h => by simp [Step.isBy, h] at hs
    exact if_neg hne
  | set _ | sweepCache _ | sweepStore => rfl

/-- A check that does not reach the store leaves the mode alone. One that does is in degraded mode
exactly if the call failed, and writes of it if this is a change. -/
theorem mode_check (hquiet : service.IsQuiet) (f : Fleet σ) (i : Nat) (raw : String) (limit : Nat)
    (fares : δ) :
    let p := f.passage members service (.check i raw limit fares)
    p.after.degraded i = p.reply.elim (f.degraded i) (!·.isOk) ∧
      p.effect.log.filter Event.isModeChange =
        p.reply.elim [] ((members i).limiter.modeEvents (service.backend fares).name
          (f.degraded i)) := by
  simp only [passage, Passage.after, step, check, Limiter.check_eq, reply?, tiers, setAt, if_true]
  cases hopening : (members i).limiter.opening (f.caches (members i).cache) f.now raw limit with
  | settled answer log => exact ⟨rfl, (members i).limiter.filter_log_opening hopening⟩
  | ask subject call =>
    obtain ⟨hflag, hlog⟩ := (members i).limiter.mode_conclude (service.backend fares).name
      (f.degraded i) (f.caches (members i).cache) f.now subject limit
      ((service.backend fares).increment f.store f.now call).answer
    refine ⟨hflag, ?_⟩
    simp only [List.filter_append, hquiet fares f.store f.now call, List.nil_append, hlog]
    rfl

/-- The mode after any step is that of the call that the limiter made in it, if it made one. A
change is written of, and nothing else. -/
theorem mode_step (hquiet : service.IsQuiet) (f : Fleet σ) (i : Nat) (s : Step δ) :
    let p := f.passage members service s
    p.after.degraded i = (p.replyTo i).elim (f.degraded i) (!·.isOk) ∧
      p.changesOf i =
        if f.degraded i = p.after.degraded i then [] else [modeLevel (p.after.degraded i)] := by
  intro p
  unfold Passage.replyTo Passage.changesOf
  cases hs : p.step.isBy i with
  | false =>
    have hkept : p.after.degraded i = f.degraded i := degraded_step_of_not_isBy members service f hs
    rw [hkept]
    exact ⟨rfl, (if_pos rfl).symm⟩
  | true =>
    cases s with
    | check j raw limit fares =>
      obtain rfl : j = i := of_decide_eq_true hs
      obtain ⟨hflag, hlog⟩ := mode_check members hquiet f j raw limit fares
      refine ⟨hflag, ?_⟩
      simp only [if_true, p, hlog, hflag]
      cases (f.passage members service (.check j raw limit fares)).reply with
      | none => exact (if_pos rfl).symm
      | some answer => exact Limiter.map_level_modeEvents ..
    | set _ | sweepCache _ | sweepStore => cases hs

/-! ### Runs -/

theorem level_of_mem_modeChanges {i : Nat} {ps : List (Passage σ δ)} {level : FixedWindow.Level}
    (h : level ∈ modeChanges i ps) : level = .warn ∨ level = .info := by
  obtain ⟨p, -, hlevel⟩ := List.mem_flatMap.mp h
  unfold Passage.changesOf at hlevel
  split at hlevel
  · obtain ⟨event, hevent, rfl⟩ := List.mem_map.mp hlevel
    exact Event.level_of_isModeChange (List.mem_filter.mp hevent).2
  · cases hlevel

/-- A change of mode before other changes. They alternate and tell the modes at both ends as the
others do. -/
theorem changes_cons (first : Bool) {second last : Bool} {changes : List FixedWindow.Level}
    (hchain : (modeLevel second :: changes).IsChain (· ≠ ·))
    (hcount : changes.count .warn + second.toNat = changes.count .info + last.toNat) :
    let all := (if first = second then [] else [modeLevel second]) ++ changes
    (modeLevel first :: all).IsChain (· ≠ ·) ∧
      all.count .warn + first.toNat = all.count .info + last.toNat := by
  by_cases hsame : first = second
  · rw [if_pos hsame, hsame]
    exact ⟨hchain, hcount⟩
  · rw [if_neg hsame, List.singleton_append]
    cases first <;> cases second <;> simp_all [modeLevel, List.isChain_cons_cons]
    omega

/-- The mode after a run is that of the last call that the limiter made, or the one before the run.
Its changes alternate, and tell the mode after the run from the one before it. -/
theorem mode_run (hquiet : service.IsQuiet) (f : Fleet σ) (i : Nat) (steps : List (Step δ)) :
    let ps := f.passages members service steps
    let after := (f.run members service steps).state.degraded i
    after = (repliesTo i ps).getLast?.elim (f.degraded i) (!·.isOk) ∧
      (modeLevel (f.degraded i) :: modeChanges i ps).IsChain (· ≠ ·) ∧
      (modeChanges i ps).count .warn + (f.degraded i).toNat =
        (modeChanges i ps).count .info + after.toNat := by
  induction steps generalizing f with
  | nil => exact ⟨rfl, List.isChain_singleton _, rfl⟩
  | cons s rest ih =>
    obtain ⟨hflag, hwritten⟩ := mode_step members hquiet f i s
    obtain ⟨hlast, hchain, hcount⟩ := ih (f.passage members service s).after
    obtain ⟨hchainAll, hcountAll⟩ := changes_cons (f.degraded i) hchain hcount
    simp only [passages, repliesTo, modeChanges, List.filterMap_cons, List.flatMap_cons, hwritten]
    refine ⟨?_, hchainAll, hcountAll⟩
    refine hlast.trans ?_
    rw [hflag]
    cases (f.passage members service s).replyTo i with
    | none => rfl
    | some answer =>
      rw [List.getLast?_cons]
      change _ = !((repliesTo i _).getLast?.getD answer).isOk
      cases (repliesTo i _).getLast? <;> rfl

/-- A limiter that starts out of degraded mode is in it exactly if the last call that it made to
the store failed. It warns when it enters the mode and gives notice when it leaves it, by turns and
a warning first, so that it is in degraded mode exactly if it gave one more warning than notices.
Rejected arguments, denials of the cache, answers that the cache refuses and the checks of other
limiters play no part. -/
theorem mode_follows_store (hquiet : service.IsQuiet) (f : Fleet σ) (i : Nat)
    (hfresh : f.degraded i = false) (steps : List (Step δ)) :
    let ps := f.passages members service steps
    let changes := modeChanges i ps
    let after := (f.run members service steps).state.degraded i
    (after = true ↔ ∃ e, (repliesTo i ps).getLast? = some (.error e)) ∧
      (FixedWindow.Level.info :: changes).IsChain (· ≠ ·) ∧
      (∀ level ∈ changes, level = .warn ∨ level = .info) ∧
      changes.count .warn = changes.count .info + after.toNat := by
  obtain ⟨hlast, hchain, hcount⟩ := mode_run members hquiet f i steps
  rw [hfresh] at hlast hchain hcount
  refine ⟨?_, hchain, fun level => level_of_mem_modeChanges, hcount⟩
  rw [hlast]
  cases (repliesTo i (f.passages members service steps)).getLast? with
  | none => simp
  | some answer => cases answer <;> simp [Except.isOk, Except.toBool]

/-- Two limiters work on one cache. The first is asked without a subject, fails to reach the store,
fails again, is denied by the cache, and gets an answer with no time left in the window, which the
cache refuses; this ends degraded mode. After an answer that is accepted it fails once more, and a
check through the other limiter changes nothing for it. -/
theorem mode_follows_store_of_flapping :
    let members : Nat → Member := fun i => ⟨{ window := .ofSecs 1, instanceId := toString i }, 0⟩
    let service := Relay.service "memory"
    let f : Fleet Relay := { now := .zero, store := .create .zero }
    let steps : List (Step Delivery) :=
      [.check 0 "" 1 .sound, .check 0 "a" 2 (.lostBefore .redis),
        .check 0 "a" 2 (.lostAfter .redis), .check 0 "a" 1 (.lostBefore .redis),
        .check 0 "b" 1 .closed, .check 0 "b" 0 .sound, .check 0 "b" 5 .sound,
        .check 0 "c" 1 (.lostBefore .redis), .check 1 "c" 5 .sound]
    let ps := f.passages members service steps
    service.IsQuiet ∧
      (∃ e, (repliesTo 0 ps).getLast? = some (.error e)) ∧
      modeChanges 0 ps = [.warn, .info, .warn] ∧ modeChanges 1 ps = [] ∧
      (f.run members service steps).state.degraded 0 = true ∧
      (f.run members service steps).state.degraded 1 = false := by
  intro members service f steps ps
  have hquiet : service.IsQuiet := Relay.isQuiet_service "memory"
  have hreplies : (repliesTo 0 ps).getLast? = some (.error .redis) := by
    decide +kernel +zetaReduce
  refine ⟨hquiet, ⟨_, hreplies⟩, by decide +kernel +zetaReduce, by decide +kernel +zetaReduce, ?_,
    by decide +kernel +zetaReduce⟩
  exact (mode_follows_store members hquiet f 0 rfl steps).1.mpr ⟨_, hreplies⟩

end Fleet

end FixedWindow
