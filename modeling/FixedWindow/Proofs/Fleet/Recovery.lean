import FixedWindow.Proofs.Fleet.Lone

/-!
# Recovery after an outage

While the store is out of reach, the local count of a lone limiter and the count of its store drift
apart: they may differ in number and in the window that they are for. The first check that the store
decides puts an end to this. Whatever the two tiers held of the subject, they hold the same
afterwards, and they stay the same as long as every later call for the subject is applied. From then
on the limiter is the reference counter, started from the figures of the store; so nothing that was
counted locally during the outage can be told from its answers.

The other subjects play no part in this, and their calls may fare in any way.

## Main definitions

* `Tally.replies`: what the reference counter replies to a list of calls for one subject.
* `Fleet.callsFor`, `Fleet.repliesFor`: the calls for a subject in a run, and the answers to them.
* `Fleet.Recovered`: a fleet that a check decided by the store has left.
* `Fleet.AppliesFor`: a run in which every call that is made for a subject is applied.

## Main results

* `Fleet.Recovered.matches_subject`: the two tiers agree after a check that the store decides.
* `Fleet.Matches.replies`: while they agree, the limiter is the reference counter.
* `Fleet.replies_recovered`: a check that the store decides erases what went before.
-/

namespace FixedWindow

/-- What the reference counter of one subject replies to calls, each at an instant and under a
limit. -/
def Tally.replies (window : Span) (kept : Option Tally) :
    List (Instant × Nat) → List (Except LimitError Verdict)
  | [] => []
  | (now, limit) :: rest =>
    if limit = 0 then .error (.validation .zeroLimit) :: replies window kept rest
    else
      let judged := judge kept now window limit
      .ok judged.1 :: replies window (some judged.2) rest

theorem Tally.judge_open? (kept : Option Tally) (now : Instant) (window : Span) (limit : Nat) :
    judge (open? kept now) now window limit = judge kept now window limit := by
  cases kept with
  | none => rfl
  | some t =>
    by_cases hopen : now < t.closesAt
    · rw [open?_of_lt hopen]
    · rw [open?_of_le (Nat.not_lt.mp hopen)]
      simp only [judge, hopen, if_false]

namespace Fleet

open Store (Relay Delivery)

variable {σ δ : Type}

/-! ### The calls for a subject -/

/-- The limit of the step, if it is a check of the subject. -/
def Step.limitFor? (subject : String) : Step δ → Option Nat
  | check _ raw limit _ => if raw = subject then some limit else none
  | set _ | sweepCache _ | sweepStore => none

/-- The checks of a subject in a run, each with its instant and its limit. -/
def callsFor (subject : String) (now : Instant) : List (Step δ) → List (Instant × Nat)
  | [] => []
  | s :: rest => ((s.limitFor? subject).map (now, ·)).toList ++ callsFor subject (s.clock now) rest

/-- The answers to the checks of a subject, apart from the source of the decisions. -/
def repliesFor (subject : String) (ps : List (Passage σ δ)) : List (Except LimitError Verdict) :=
  (checksOf subject ps).filterMap fun p => p.answer.map (Except.map Decision.verdict)

section Calls

variable {subject : String} {now : Instant} {rest : List (Step δ)}

theorem callsFor_check (i limit : Nat) (fares : δ) :
    callsFor subject now (.check i subject limit fares :: rest) =
      (now, limit) :: callsFor subject now rest := by
  simp only [callsFor, Step.limitFor?, if_true]
  rfl

theorem callsFor_cons_of_not_checks {s : Step δ} (hs : s.checks subject = false) :
    callsFor subject now (s :: rest) = callsFor subject (s.clock now) rest := by
  have hnone : s.limitFor? subject = none := by
    cases s with
    | check i raw limit fares => exact if_neg (of_decide_eq_false hs)
    | set _ | sweepCache _ | sweepStore => rfl
  rw [callsFor, hnone]
  rfl

theorem repliesFor_cons_of_checks {p : Passage σ δ} {ps : List (Passage σ δ)}
    {answer : Except LimitError Decision} (hp : p.step.checks subject = true)
    (hanswer : p.answer = some answer) :
    repliesFor subject (p :: ps) = answer.map Decision.verdict :: repliesFor subject ps := by
  rw [repliesFor, checksOf_cons_of_checks hp, List.filterMap_cons, hanswer]
  rfl

theorem repliesFor_cons_of_not_checks {p : Passage σ δ} {ps : List (Passage σ δ)}
    (hp : p.step.checks subject = false) :
    repliesFor subject (p :: ps) = repliesFor subject ps := by
  rw [repliesFor, checksOf_cons_of_not_checks hp, repliesFor]

end Calls

/-! ### Recovery -/

/-- The fleet that is left by a check of the subject which the store decides, whatever the two tiers
held before. -/
def Recovered (l : Limiter) (name : String) (subject : Subject) (g : Fleet Relay) : Prop :=
  ∃ (f : Fleet Relay) (i limit : Nat) (d : Delivery) (decision : Decision),
    let done := f.check (lone l) ((Relay.service name).backend d) i subject.text limit
    d.IsPlain ∧ done.answer = .ok decision ∧ decision.source = .store ∧ done.state = g

variable {l : Limiter} {name : String} {f g : Fleet Relay} {subject : Subject}

/-- After a check that the store decides, the two tiers hold the same of its subject: the store's
tally with the check in it. -/
theorem Recovered.matches_subject (h : g.Recovered l name subject) (hwindow : l.window ≠ .zero) :
    ∃ t, g.cached? 0 subject.text = some t ∧ g.stored? (subject.storeKey l.keyPrefix) = some t ∧
      t.closesAt ≤ Instant.last := by
  obtain ⟨f, i, limit, d, decision, hplain, hanswer, hsource, rfl⟩ := h
  have hlimit : 0 < limit := by
    refine Nat.pos_of_ne_zero fun hzero => ?_
    subst hzero
    rw [check_of_zero] at hanswer
    cases hanswer
  obtain ⟨newEnd, hadopts, hstored, hlast⟩ :=
    adopts_of_source (keyPrefix_lone l) name i subject limit hlimit hplain hwindow hanswer hsource
  exact ⟨_, (hadopts.cached 0 subject.text).trans (if_pos ⟨rfl, rfl⟩), hstored, hlast⟩

/-! ### Runs in which every call is applied -/

/-- The clock never goes back and can hold a window at each check, and every call that is made for
the subject is applied. -/
structure AppliesFor (l : Limiter) (name subject : String) (f : Fleet Relay)
    (steps : List (Step Delivery)) : Prop where
  forward : Forward f.now steps
  inReach : InReach (lone l) f.now steps
  applies : ∀ p ∈ f.passages (lone l) (Relay.service name) steps,
    p.step.OnCheck fun _ raw limit fares =>
      raw = subject → limit ≤ maxCount ∧ (p.reply.isSome = true → fares.Applies)

theorem AppliesFor.tail {raw : String} {s : Step Delivery} {rest : List (Step Delivery)}
    (h : f.AppliesFor l name raw (s :: rest)) :
    (f.step (lone l) (Relay.service name) s).state.AppliesFor l name raw rest where
  forward := along_after (lone l) (Relay.service name) h.forward
  inReach := along_after (lone l) (Relay.service name) h.inReach
  applies := (List.forall_mem_cons.mp h.applies).2

/-- A check of the subject is judged by what the local tier has kept of it. -/
theorem Matches.judged (h : f.Matches subject.text (subject.storeKey l.keyPrefix))
    {kept : Option Tally} (hkept : f.cached? 0 subject.text = Tally.open? kept f.now)
    (name : String) (i : Nat) {limit : Nat} {d : Delivery} (hlimit : 0 < limit)
    (hword : limit ≤ maxCount) (hwindow : l.window ≠ .zero) {newEnd : Instant}
    (hend : f.now.add? l.window = some newEnd)
    (hd : (∀ t, f.cached? 0 subject.text = some t → t.count < limit) → d.Applies) :
    let judged := Tally.judge kept f.now l.window limit
    let done := f.check (lone l) ((Relay.service name).backend d) i subject.text limit
    done.answer.map Decision.verdict = .ok judged.1 ∧
      done.state.cached? 0 subject.text = Tally.open? (some judged.2) f.now := by
  have hmirrors : f.Mirrors fun other => f.cached? 0 other := fun other =>
    Cache.tally?_later _ _ (Nat.le_refl _)
  have hcounts : f.Counts l (Relay.service name) (.check i subject.text limit d) := by
    intro other hother hroom newEnd' hend'
    obtain rfl : subject = other := Subject.ext hother
    exact h.adopts name i limit (hd hroom) hwindow hend'
      fun t ht => Nat.lt_of_lt_of_le (hroom t ht) hword
  obtain ⟨hanswer, hafter⟩ := hmirrors.check (Relay.service name) hlimit hwindow hend hcounts
  rw [hkept, Tally.judge_open?] at hanswer hafter
  refine ⟨hanswer, (hafter subject.text).trans ?_⟩
  rw [Book.note, if_pos rfl]
  rfl

/-- As long as every call that is made for a subject is applied, two tiers that match go on
matching, and the subject is answered as by the reference counter. -/
theorem Matches.replies (h : f.Matches subject.text (subject.storeKey l.keyPrefix))
    {kept : Option Tally} (hkept : f.cached? 0 subject.text = Tally.open? kept f.now)
    (name : String) (hwindow : l.window ≠ .zero) {steps : List (Step Delivery)}
    (hsteps : f.AppliesFor l name subject.text steps) :
    (∀ p ∈ f.passages (lone l) (Relay.service name) steps,
        p.after.Matches subject.text (subject.storeKey l.keyPrefix)) ∧
      repliesFor subject.text (f.passages (lone l) (Relay.service name) steps) =
        Tally.replies l.window kept (callsFor subject.text f.now steps) := by
  induction steps generalizing f kept with
  | nil => exact ⟨fun p hp => (by cases hp), rfl⟩
  | cons s rest ih =>
    rw [passages, List.forall_mem_cons]
    cases hs : s.checks subject.text with
    | false =>
      have hnow := now_step (lone l) (Relay.service name) f s
      have hmatches := h.step name hs hsteps.forward.1
      have hcached := cached?_step (lone l) (Relay.service name) f 0 hs hsteps.forward.1
      rw [hkept, Tally.open?_open? _ hsteps.forward.1, ← hnow] at hcached
      obtain ⟨hrest, hreplies⟩ := ih hmatches hcached hsteps.tail
      rw [repliesFor_cons_of_not_checks hs, callsFor_cons_of_not_checks hs, ← hnow]
      exact ⟨⟨hmatches, hrest⟩, hreplies⟩
    | true =>
      obtain ⟨i, limit, fares, rfl⟩ := Step.exists_of_checks hs
      obtain ⟨hword, happlies⟩ := (List.forall_mem_cons.mp hsteps.applies).1 rfl
      obtain ⟨newEnd, hend⟩ := Option.isSome_iff_exists.mp hsteps.inReach.1
      rw [callsFor_check, Tally.replies, repliesFor_cons_of_checks hs rfl]
      by_cases hzero : limit = 0
      · subst hzero
        have hdone := check_of_zero (lone l) i ((Relay.service name).backend fares) f subject
        have hafter : (f.passage (lone l) (Relay.service name)
            (.check i subject.text 0 fares)).after = f := congrArg Effect.state hdone
        obtain ⟨hrest, hreplies⟩ := ih h hkept (hafter ▸ hsteps.tail)
        rw [hafter, hdone, if_pos rfl, hreplies]
        exact ⟨⟨h, hrest⟩, rfl⟩
      · have hpos := Nat.pos_of_ne_zero hzero
        have hmade (hroom : ∀ t, f.cached? 0 subject.text = some t → t.count < limit) :
            fares.Applies := by
          refine happlies ?_
          rw [passage, reply?_of_room (lone l) i hpos hroom]
          rfl
        have hmatches := h.check name i hpos hword hwindow hend hmade
        obtain ⟨hanswer, hcached⟩ := h.judged hkept name i hpos hword hwindow hend hmade
        obtain ⟨hrest, hreplies⟩ := ih hmatches hcached hsteps.tail
        rw [if_neg hzero, hanswer]
        exact ⟨⟨hmatches, hrest⟩, congrArg (_ :: ·) hreplies⟩

/-- After a check that the store decides, the two tiers agree for as long as every call that is made
for the subject is applied, and the subject is answered as by the reference counter started from the
figures of the store. -/
theorem Recovered.replies (h : g.Recovered l name subject) (hwindow : l.window ≠ .zero) :
    ∃ t, g.cached? 0 subject.text = some t ∧ g.stored? (subject.storeKey l.keyPrefix) = some t ∧
      ∀ steps, g.AppliesFor l name subject.text steps →
        (∀ p ∈ g.passages (lone l) (Relay.service name) steps,
            p.after.Matches subject.text (subject.storeKey l.keyPrefix)) ∧
          repliesFor subject.text (g.passages (lone l) (Relay.service name) steps) =
            Tally.replies l.window (some t) (callsFor subject.text g.now steps) := by
  obtain ⟨t, hcached, hstored, hlast⟩ := h.matches_subject hwindow
  have hmatches : g.Matches subject.text (subject.storeKey l.keyPrefix) := by
    refine ⟨hstored.trans hcached.symm, fun u hu => ?_⟩
    cases hcached.symm.trans hu
    exact hlast
  have hkept : g.cached? 0 subject.text = Tally.open? (some t) g.now := by
    rw [hcached, Tally.open?_of_lt (lt_of_cached? hcached)]
  exact ⟨t, hcached, hstored, fun steps hsteps => hmatches.replies hkept name hwindow hsteps⟩

/-- A check that the store decides erases whatever the two tiers held of its subject: they agree on
the count and on the end of the window, and as long as every later call that is made for the subject
is applied, they go on agreeing, and the subject is answered as by the reference counter started
from those figures. So two histories that lead to the same figures of the store are followed by the
same answers. -/
theorem replies_recovered (l : Limiter) (name : String) (hwindow : l.window ≠ .zero)
    (subject : Subject) (g : Fleet Relay) (hg : g.Recovered l name subject) :
    let key := subject.storeKey l.keyPrefix
    let replies (start : Fleet Relay) (steps : List (Step Delivery)) :=
      repliesFor subject.text (start.passages (lone l) (Relay.service name) steps)
    ∃ t, g.cached? 0 subject.text = some t ∧ g.stored? key = some t ∧
      ∀ steps, g.AppliesFor l name subject.text steps →
        (∀ p ∈ g.passages (lone l) (Relay.service name) steps,
            p.after.cached? 0 subject.text = p.after.stored? key) ∧
          replies g steps =
            Tally.replies l.window (some t) (callsFor subject.text g.now steps) ∧
          ∀ (g' : Fleet Relay) (steps' : List (Step Delivery)),
            g'.Recovered l name subject → g'.stored? key = some t →
            g'.AppliesFor l name subject.text steps' →
            callsFor subject.text g'.now steps' = callsFor subject.text g.now steps →
            replies g' steps' = replies g steps := by
  intro key replies
  obtain ⟨t, hcached, hstored, hruns⟩ := hg.replies hwindow
  refine ⟨t, hcached, hstored, fun steps hsteps => ?_⟩
  obtain ⟨hmatches, hreplies⟩ := hruns steps hsteps
  refine ⟨fun p hp => (hmatches p hp).same.symm, hreplies, ?_⟩
  intro g' steps' hg' hstored' hsteps' hcalls
  obtain ⟨t', -, ht', hruns'⟩ := hg'.replies hwindow
  obtain rfl : t' = t := Option.some.inj (ht'.symm.trans hstored')
  calc replies g' steps'
      = Tally.replies l.window (some t') (callsFor subject.text g'.now steps') :=
        (hruns' steps' hsteps').2
    _ = Tally.replies l.window (some t') (callsFor subject.text g.now steps) := by rw [hcalls]
    _ = replies g steps := hreplies.symm

/-- Two checks or none are counted locally before the store decides one; afterwards the two
histories are told the same, in the window of the store and in the next one. One of the checks finds
the limit reached locally, so that no call is made that could fail. -/
theorem replies_recovered_of_outage :
    let l : Limiter := { window := .ofSecs 1 }
    let service := Relay.service "memory"
    let recovered (missed : Nat) : Fleet Relay :=
      (((fresh .zero).run (lone l) service
          (List.replicate missed (.check 0 "a" 3 (.lostBefore .redis)))).state.check (lone l)
        (service.backend .sound) 0 "a" 3).state
    let replies (missed : Nat) (steps : List (Step Delivery)) :=
      repliesFor "a" ((recovered missed).passages (lone l) service steps)
    let steps : List (Step Delivery) :=
      [.check 0 "a" 2 (.lostAfter .redis), .check 0 "b" 1 (.lostBefore .redis), .sweepCache 0,
        .check 0 "a" 2 (.lostBefore .redis), .set ⟨nanosPerSec⟩, .check 0 "a" 3 .sound]
    replies 2 steps =
        Tally.replies l.window (some ⟨1, ⟨nanosPerSec⟩⟩) (callsFor "a" .zero steps) ∧
      replies 0 steps = replies 2 steps := by
  intro l service recovered replies steps
  have hrecovered (missed : Nat) (hdecision : (((fresh .zero).run (lone l) service
      (List.replicate missed (.check 0 "a" 3 (.lostBefore .redis)))).state.check (lone l)
        (service.backend .sound) 0 "a" 3).answer.toOption =
          some (.ofCount 1 3 (.ofSecs 1) .store)) :
      (recovered missed).Recovered l "memory" ⟨"a", by decide⟩ := by
    refine ⟨_, 0, 3, .sound, .ofCount 1 3 (.ofSecs 1) .store, trivial, ?_, rfl, rfl⟩
    generalize Effect.answer _ = answer at hdecision ⊢
    cases answer with
    | error e => cases hdecision
    | ok d => exact congrArg Except.ok (Option.some.inj hdecision)
  have hmany : (recovered 2).AppliesFor l "memory" "a" steps :=
    ⟨by decide +kernel +zetaReduce, by decide +kernel +zetaReduce, by decide +kernel +zetaReduce⟩
  have hnone : (recovered 0).AppliesFor l "memory" "a" steps :=
    ⟨by decide +kernel +zetaReduce, by decide +kernel +zetaReduce, by decide +kernel +zetaReduce⟩
  obtain ⟨t, -, hstored, hruns⟩ := replies_recovered l "memory" (by decide +zetaReduce)
    ⟨"a", by decide⟩ (recovered 2) (hrecovered 2 (by decide +kernel +zetaReduce))
  obtain rfl : t = ⟨1, ⟨nanosPerSec⟩⟩ := Option.some.inj
    (hstored.symm.trans (by decide +kernel +zetaReduce))
  obtain ⟨-, hreplies, hsame⟩ := hruns steps hmany
  exact ⟨hreplies, hsame (recovered 0) steps (hrecovered 0 (by decide +kernel +zetaReduce))
    (by decide +kernel +zetaReduce) hnone rfl⟩

end Fleet

end FixedWindow
