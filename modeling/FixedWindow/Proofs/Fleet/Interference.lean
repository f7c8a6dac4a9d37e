import FixedWindow.Proofs.Fleet.Sight

/-!
# Subjects do not interfere

What is seen of one subject in a fleet is its live entry in each cache and the open window of its
key in the store. A check of the subject depends on nothing else: it answers alike, and leaves the
same to be seen, in any two fleets in which the same is seen. The subjects share tables, and with
them the passes over what has expired, and several caches may be one; but a step that does not
check the subject only lets time pass for it. So all checks of other subjects can be deleted from a
run without a trace in what is seen of the subject.

Nothing is assumed here of the windows, the limits, or the way in which calls to the store fare.

## Main definitions

* `Effect.Agrees`: two effects answer alike and leave the same to be seen.
* `Fleet.View`, `Fleet.view`: what is seen of a subject.
* `Fleet.Step.concerns`: the steps other than checks of other subjects.
* `Fleet.Sighting`, `Fleet.sightings`: the checks of a subject in a run, each with its answer and
  what is seen of the subject afterwards.

## Main results

* `Fleet.view_step`: a step that does not check the subject lets time pass.
* `Limiter.check_agrees`, `Fleet.check_agrees`: a check depends on what is seen of its subject.
* `Fleet.sightings_filter_concerns`: the checks of other subjects can be deleted.
-/

namespace FixedWindow

open Store (Relay Delivery)

/-- Two effects answer alike and leave the same to be seen of the state. -/
structure Effect.Agrees {σ α β : Type} (see : σ → β) (e e' : Effect σ α) : Prop where
  answer : e.answer = e'.answer
  seen : see e.state = see e'.state

/-! ### The store -/

namespace Store

variable {now : Instant} (call : Call)

theorem Memory.increment_agrees {m m' : Memory}
    (h : m.tally? now call.key = m'.tally? now call.key) :
    Effect.Agrees (Memory.tally? · now call.key) (m.increment now call)
      (m'.increment now call) := by
  cases hend : now.add? call.window with
  | none =>
    rw [increment_of_add?_eq_none m hend, increment_of_add?_eq_none m' hend]
    exact ⟨rfl, h⟩
  | some newEnd =>
    refine ⟨?_, ?_⟩
    · rw [answer_increment m hend, answer_increment m' hend, h]
    · rw [tally?_increment_self m hend, tally?_increment_self m' hend, h]

theorem Relay.answerWith_agrees {e e' : Effect Memory Answer} {β : Type} {see : Memory → β}
    (h : e.Agrees see e') (f : WindowCount → Answer) :
    (answerWith f e).Agrees see (answerWith f e') :=
  ⟨congrArg (·.bind f) h.answer, h.seen⟩

theorem Relay.increment_agrees {r r' : Relay} (d : Delivery)
    (h : r.tally? now call.key = r'.tally? now call.key) :
    Effect.Agrees (Relay.tally? · now call.key) (r.increment d now call)
      (r'.increment d now call) := by
  have hinner := Memory.increment_agrees call h
  have hdelivered : Effect.Agrees (Memory.tally? · now call.key) (deliver d r.inner now call)
      (deliver d r'.inner now call) := by
    cases d with
    | sound => exact hinner
    | lostBefore e => exact ⟨rfl, h⟩
    | lostAfter e => exact answerWith_agrees hinner _
    | closed => exact answerWith_agrees hinner _
    | forged figures => exact ⟨rfl, h⟩
  exact ⟨hdelivered.answer, hdelivered.seen⟩

end Store

/-! ### One limiter -/

namespace Limiter

variable (l : Limiter) {c c' : Cache} {now : Instant} {subject : Subject}

theorem conclude_agrees (h : c.get? now subject.text = c'.get? now subject.text) (store : String)
    (degraded degraded' : Bool) (limit : Nat) {answer answer' : Store.Answer}
    (hanswer : answer = answer') :
    Effect.Agrees (fun state => state.2.get? now subject.text)
      (l.conclude store degraded c now subject limit answer)
      (l.conclude store degraded' c' now subject limit answer') := by
  subst hanswer
  obtain ⟨decided, flag, written, log, hlog⟩ := l.conclude_seesLive store subject limit answer h
  rw [(hlog degraded).1, (hlog degraded').2]
  exact ⟨rfl, Cache.get?_putAny_congr h written⟩

/-- A check depends on the tiers only through the live entry of its subject and the open window of
its key, and so does what it leaves of the two. -/
theorem check_agrees (name : String) (d : Delivery) (limit : Nat) (t t' : Tiers Relay)
    (hcache : t.cache.get? now subject.text = t'.cache.get? now subject.text)
    (hstore : t.store.tally? now (subject.storeKey l.keyPrefix) =
      t'.store.tally? now (subject.storeKey l.keyPrefix)) :
    Effect.Agrees (fun tiers => (tiers.cache.get? now subject.text,
        tiers.store.tally? now (subject.storeKey l.keyPrefix)))
      (l.check ((Relay.service name).backend d) now subject.text limit t)
      (l.check ((Relay.service name).backend d) now subject.text limit t') := by
  rw [check_eq, check_eq]
  rw [← l.opening_congr hcache]
  split
  · exact ⟨rfl, Prod.ext hcache hstore⟩
  · rename_i s call hask
    obtain ⟨hs, rfl⟩ := l.of_opening_eq_ask hask
    obtain rfl : subject = s := Subject.ext hs
    have hserved :=
      Relay.increment_agrees ⟨subject.storeKey l.keyPrefix, l.window⟩ d hstore
    have hconcluded :=
      l.conclude_agrees hcache name t.degraded t'.degraded limit hserved.answer
    exact ⟨hconcluded.answer, Prod.ext hconcluded.seen hserved.seen⟩

end Limiter

namespace Fleet

/-! ### What is seen of a subject -/

/-- What is seen of a subject at an instant: its live entry in each cache, and the open window of
its key in the store. -/
@[ext]
structure View where
  now : Instant
  live : Nat → Option Entry
  stored : Option Tally

/-- The view after some time in which nothing happens to the subject. -/
def View.later (v : View) (later : Instant) : View :=
  ⟨later, fun j => (v.live j).filter (·.isLive later), Tally.open? v.stored later⟩

/-- What is seen of a subject in a fleet. -/
def view (f : Fleet Relay) (subject : Subject) (keyPrefix : String) : View :=
  ⟨f.now, fun j => f.live? j subject.text, f.stored? (subject.storeKey keyPrefix)⟩

theorem view_later_now (f : Fleet Relay) (subject : Subject) (keyPrefix : String) :
    (f.view subject keyPrefix).later f.now = f.view subject keyPrefix :=
  View.ext rfl (funext fun _ => (Cache.get?_later _ _ (Nat.le_refl _)).symm)
    (Store.Memory.tally?_later _ _ (Nat.le_refl _)).symm

section Shared

variable {members : Nat → Member} {keyPrefix : String}
  (hshared : ∀ i, (members i).limiter.keyPrefix = keyPrefix) (name : String) {f g : Fleet Relay}
  {subject : Subject}

include hshared

/-- A step that does not check the subject lets time pass. -/
theorem view_step {s : Step Delivery} (hs : s.checks subject.text = false)
    (hforward : f.now ≤ s.clock f.now) :
    (f.step members (Relay.service name) s).state.view subject keyPrefix =
      (f.view subject keyPrefix).later (s.clock f.now) :=
  View.ext (now_step members _ f s) (funext fun j => live?_step members _ f j hs hforward)
    (stored?_step hshared name f hs hforward)

/-- A check depends on a fleet only through what is seen of its subject. -/
theorem check_agrees (h : f.view subject keyPrefix = g.view subject keyPrefix) (i limit : Nat)
    (d : Delivery) :
    Effect.Agrees (view · subject keyPrefix)
      (f.check members ((Relay.service name).backend d) i subject.text limit)
      (g.check members ((Relay.service name).backend d) i subject.text limit) := by
  obtain ⟨now, degraded, caches, store⟩ := f
  obtain ⟨now', degraded', caches', store'⟩ := g
  obtain rfl : now = now' := congrArg View.now h
  have hlive (j : Nat) : (caches j).get? now subject.text = (caches' j).get? now subject.text :=
    congrFun (congrArg View.live h) j
  have hstored : store.tally? now (subject.storeKey keyPrefix) =
      store'.tally? now (subject.storeKey keyPrefix) := congrArg View.stored h
  obtain rfl := hshared i
  obtain ⟨hanswer, hseen⟩ := (members i).limiter.check_agrees name d limit
    ⟨degraded i, caches (members i).cache, store⟩
    ⟨degraded' i, caches' (members i).cache, store'⟩ (hlive _) hstored
  refine ⟨hanswer, View.ext rfl (funext fun j => ?_) (congrArg Prod.snd hseen)⟩
  simp only [view, live?, check, setAt]
  split
  · exact congrArg Prod.fst hseen
  · exact hlive j

end Shared

/-! ### Runs -/

/-- Whether the step is anything but a check of another subject. -/
def Step.concerns {δ : Type} (subject : String) : Step δ → Bool
  | check _ s _ _ => s = subject
  | set _ | sweepCache _ | sweepStore => true

theorem Step.clock_of_not_concerns {δ : Type} {subject : String} {s : Step δ}
    (h : s.concerns subject = false) (now : Instant) : s.clock now = now := by
  cases s with
  | check i raw limit fares => rfl
  | set _ | sweepCache _ | sweepStore => cases h

/-- A check of a subject in a run: its answer, and what is seen of the subject afterwards. -/
@[ext]
structure Sighting where
  answer : Option (Except LimitError Decision)
  after : View

/-- The checks of a subject in a run. -/
def sightings (subject : Subject) (keyPrefix : String) (ps : List (Passage Relay Delivery)) :
    List Sighting :=
  (checksOf subject.text ps).map fun p => ⟨p.answer, p.after.view subject keyPrefix⟩

theorem sightings_cons_of_checks {subject : Subject} {keyPrefix : String}
    {p : Passage Relay Delivery} (h : p.step.checks subject.text = true)
    (ps : List (Passage Relay Delivery)) :
    sightings subject keyPrefix (p :: ps) =
      ⟨p.answer, p.after.view subject keyPrefix⟩ :: sightings subject keyPrefix ps := by
  rw [sightings, checksOf_cons_of_checks h, List.map_cons, sightings]

theorem sightings_cons_of_not_checks {subject : Subject} {keyPrefix : String}
    {p : Passage Relay Delivery} (h : p.step.checks subject.text = false)
    (ps : List (Passage Relay Delivery)) :
    sightings subject keyPrefix (p :: ps) = sightings subject keyPrefix ps := by
  rw [sightings, checksOf_cons_of_not_checks h, sightings]

section Shared

variable {members : Nat → Member} {keyPrefix : String}
  (hshared : ∀ i, (members i).limiter.keyPrefix = keyPrefix) (name : String) {subject : Subject}

include hshared

/-- Two runs from fleets that look alike for the subject, one with the checks of other subjects and
one without, look alike for the subject all along. -/
theorem sightings_of_view_eq {f g : Fleet Relay} {steps : List (Step Delivery)}
    (h : f.view subject keyPrefix = g.view subject keyPrefix) (hforward : Forward f.now steps) :
    sightings subject keyPrefix (f.passages members (Relay.service name) steps) =
      sightings subject keyPrefix (g.passages members (Relay.service name)
        (steps.filter (·.concerns subject.text))) := by
  induction steps generalizing f g with
  | nil => rfl
  | cons s rest ih =>
    have hrest := along_after members (Relay.service name) hforward
    have hnow : f.now = g.now := congrArg View.now h
    cases hs : s.checks subject.text with
    | true =>
      obtain ⟨i, limit, fares, rfl⟩ := Step.exists_of_checks hs
      have hagrees := check_agrees hshared name h i limit fares
      have hconcerns : (Step.check i subject.text limit fares).concerns subject.text = true :=
        decide_eq_true rfl
      rw [List.filter_cons_of_pos hconcerns, passages, passages, sightings_cons_of_checks hs,
        sightings_cons_of_checks hs]
      exact List.cons_eq_cons.mpr ⟨Sighting.ext (congrArg some hagrees.answer) hagrees.seen,
        ih hagrees.seen hrest⟩
    | false =>
      have hview := view_step hshared name hs hforward.1
      rw [passages, sightings_cons_of_not_checks hs]
      cases hconcerns : s.concerns subject.text with
      | true =>
        -- both runs make the step, and the same time passes in both
        rw [List.filter_cons_of_pos hconcerns, passages, sightings_cons_of_not_checks hs]
        refine ih (hview.trans ?_) hrest
        rw [h, hnow]
        exact (view_step hshared name hs (hnow ▸ hforward.1)).symm
      | false =>
        -- only one run makes the step, and no time passes
        rw [List.filter_cons_of_neg (Bool.not_eq_true _ ▸ hconcerns)]
        rw [Step.clock_of_not_concerns hconcerns, view_later_now] at hview
        exact ih (hview.trans h) hrest

/-- The checks of other subjects can be deleted from a run: each check of the subject is answered
as before, and leaves the subject the same live entry in every cache and the same count and window
in the store. -/
theorem sightings_filter_concerns (f : Fleet Relay) (steps : List (Step Delivery))
    (hforward : Forward f.now steps) :
    sightings subject keyPrefix (f.passages members (Relay.service name) steps) =
      sightings subject keyPrefix (f.passages members (Relay.service name)
        (steps.filter (·.concerns subject.text))) :=
  sightings_of_view_eq hshared name rfl hforward

end Shared

/-- Two subjects, one of which looks like a key of the other, are checked through limiters that
share a cache and have windows of different lengths, one of them empty. The checks of the other
subject open windows, lose answers and make the passes in which the store drops the first window of
this one; none of it shows. -/
theorem sightings_filter_concerns_of_shared_cache :
    let members (i : Nat) : Member := ⟨{ window := .ofSecs i }, i / 3⟩
    let lost : Delivery := .lostAfter (.timeout (.ofMillis 50))
    let subject : Subject := ⟨"a", by decide⟩
    let mixed : List (Step Delivery) :=
      [.check 1 "a" 2 .sound, .check 2 "a:a" 1 .closed, .check 2 "a" 2 lost,
        .set ⟨nanosPerSec⟩, .check 2 "a:a" 3 .sound, .check 0 "a:a" 3 lost,
        .check 1 "a" 1 .sound, .check 3 "a:a" 9 (.forged ⟨7, .ofSecs 5⟩), .sweepCache 1,
        .check 3 "a" 2 .sound, .check 0 "a" 2 .closed]
    let alone : List (Step Delivery) :=
      [.check 1 "a" 2 .sound, .check 2 "a" 2 lost, .set ⟨nanosPerSec⟩, .check 1 "a" 1 .sound,
        .sweepCache 1, .check 3 "a" 2 .sound, .check 0 "a" 2 .closed]
    sightings subject defaultKeyPrefix
        ((fresh .zero).passages members (Relay.service "memory") mixed) =
      sightings subject defaultKeyPrefix
        ((fresh .zero).passages members (Relay.service "memory") alone) := by
  intro members lost subject mixed alone
  have hshared (i : Nat) : (members i).limiter.keyPrefix = defaultKeyPrefix := rfl
  have halone : mixed.filter (·.concerns subject.text) = alone := by decide
  rw [← halone]
  exact sightings_filter_concerns hshared "memory" (fresh .zero) mixed (by decide +zetaReduce)

end Fleet

end FixedWindow
