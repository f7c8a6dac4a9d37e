import FixedWindow.Proofs.Fleet.Trailing

/-!
# Checks without the local denial

A full local tally denies a call without asking the store, so that the store does not count it. Here
a run is set beside the same run in which every check asks the store. As soon as a call is denied
locally the two stores differ in their counts; but they have the same windows open, and their counts
are the same up to the limit of the subject, which is all that a verdict depends on.

## Main definitions

* `Tally.capped`: a tally with its count cut off at a limit.
* `Fleet.checkStraight`, `Fleet.stepStraight`, `Fleet.runStraight`: every check asks the store.
* `Fleet.Alike`: the relation between the two runs.

## Main results

* `Fleet.Alike.step`, `Fleet.Alike.check`: the relation along the two runs.
* `Fleet.verdicts_straight`: the local denial changes no decision.
-/

namespace FixedWindow

/-! ### Counts up to a limit -/

namespace Tally

/-- The tally with its count cut off at a limit. -/
def capped (limit : Nat) (t : Tally) : Tally := ⟨min t.count limit, t.closesAt⟩

theorem map_capped_open? (limit : Nat) (o : Option Tally) (now : Instant) :
    (open? o now).map (capped limit) = open? (o.map (capped limit)) now := by
  rw [open?, open?, Option.filter_map]
  rfl

variable {o o' : Option Tally} {limit : Nat} (h : o.map (capped limit) = o'.map (capped limit))
  (now newEnd : Instant)

include h in
theorem verdict_next_of_capped :
    (next o newEnd).verdict now limit = (next o' newEnd).verdict now limit := by
  cases o with
  | none =>
    rw [Option.map_none, eq_comm, Option.map_eq_none_iff] at h
    rw [h]
  | some t =>
    obtain ⟨t', rfl, ht⟩ := Option.map_eq_some_iff.mp h.symm
    obtain ⟨hcount, hend⟩ := Tally.mk.inj ht
    have hallowed : t.count + 1 ≤ limit ↔ t'.count + 1 ≤ limit := by omega
    have hremaining : limit - (t.count + 1) = limit - (t'.count + 1) := by omega
    simp only [next, verdict, hallowed, hremaining, hend]

include h in
theorem capped_next_of_capped :
    (next o newEnd).capped limit = (next o' newEnd).capped limit := by
  cases o with
  | none =>
    rw [Option.map_none, eq_comm, Option.map_eq_none_iff] at h
    rw [h]
  | some t =>
    obtain ⟨t', rfl, ht⟩ := Option.map_eq_some_iff.mp h.symm
    obtain ⟨hcount, hend⟩ := Tally.mk.inj ht
    have hmin : min (t.count + 1) limit = min (t'.count + 1) limit := by omega
    simp only [next, capped, hmin, hend]

theorem verdict_exhausted {t : Tally} (hfull : limit ≤ t.count) :
    (Decision.exhausted limit (t.closesAt.since now)).verdict =
      (next (some t) newEnd).verdict now limit := by
  have hdenied : ¬ t.count + 1 ≤ limit := by omega
  have hremaining : limit - (t.count + 1) = 0 := by omega
  simp only [Decision.exhausted, Decision.verdict, verdict, next, hdenied, decide_false,
    hremaining]

theorem capped_of_full {t : Tally} (hfull : limit ≤ t.count) :
    t.capped limit = (next (some t) newEnd).capped limit := by
  have hmin : min t.count limit = min (t.count + 1) limit := by omega
  simp only [capped, next, hmin]

end Tally

/-! ### Runs in which every check asks the store -/

namespace Fleet

open Store (Relay Delivery)

variable {σ δ : Type}

/-- A check that asks the store whenever its arguments are valid. -/
def checkStraight (members : Nat → Member) (store : Store.Backend σ) (f : Fleet σ) (i : Nat)
    (raw : String) (limit : Nat) : Effect (Fleet σ) (Except LimitError Decision) :=
  match Subject.parse raw, checkedLimit limit with
  | .error e, _ => { answer := .error e, state := f }
  | .ok _, .error e => { answer := .error e, state := f }
  | .ok s, .ok limit => f.ask members store i s limit

/-- A step in which a check asks the store. -/
def stepStraight (members : Nat → Member) (service : Store.Service σ δ) (f : Fleet σ) :
    Step δ → Effect (Fleet σ) (Option (Except LimitError Decision))
  | .check i subject limit fares =>
    let done := f.checkStraight members (service.backend fares) i subject limit
    { done with answer := some done.answer }
  | .set time => f.step members service (.set time)
  | .sweepCache i => f.step members service (.sweepCache i)
  | .sweepStore => f.step members service .sweepStore

/-- A run in which every check asks the store. -/
def runStraight (members : Nat → Member) (service : Store.Service σ δ) (f : Fleet σ) :
    List (Step δ) → Effect (Fleet σ) (List (Option (Except LimitError Decision)))
  | [] => { answer := [], state := f }
  | s :: rest =>
    let first := f.stepStraight members service s
    let others := runStraight members service first.state rest
    { answer := first.answer :: others.answer
      state := others.state
      log := first.log ++ others.log }

theorem check_of_invalid (members : Nat → Member) (store : Store.Backend σ) (i : Nat)
    {raw : String} {limit : Nat} (h : raw = "" ∨ limit = 0) :
    ∃ e, ∀ f : Fleet σ, f.check members store i raw limit = { answer := .error e, state := f } ∧
      f.checkStraight members store i raw limit = { answer := .error e, state := f } := by
  by_cases hraw : raw = ""
  · subst hraw
    exact ⟨.validation .emptySubject, fun f => ⟨check_of_empty members i store f limit, rfl⟩⟩
  · obtain rfl : limit = 0 := h.resolve_left hraw
    have hparse : Subject.parse raw = .ok ⟨raw, hraw⟩ := dif_neg hraw
    refine ⟨.validation .zeroLimit,
      fun f => ⟨check_of_zero members i store f ⟨raw, hraw⟩, ?_⟩⟩
    simp only [checkStraight, hparse]
    rfl

theorem checkStraight_of_valid (members : Nat → Member) (store : Store.Backend σ) (f : Fleet σ)
    (i : Nat) (subject : Subject) {limit : Nat} (hlimit : 0 < limit) :
    f.checkStraight members store i subject.text limit = f.ask members store i subject limit := by
  simp only [checkStraight, subject.parse_text, checkedLimit_of_pos hlimit]

/-! ### The two runs side by side -/

/-- Two fleets at the same instant, the caches of the first trailing its store, whose stores have
the same windows open for each subject, with counts that are the same up to the subject's limit. -/
structure Alike (f g : Fleet Relay) (keyPrefix : String) (limitOf : String → Nat) : Prop where
  now : g.now = f.now
  trails : ∀ s : Subject, f.Trails s.text (s.storeKey keyPrefix)
  stored : ∀ s : Subject, (f.stored? (s.storeKey keyPrefix)).map (Tally.capped (limitOf s.text)) =
    (g.stored? (s.storeKey keyPrefix)).map (Tally.capped (limitOf s.text))

theorem alike_fresh (now : Instant) (keyPrefix : String) (limitOf : String → Nat) :
    (fresh now).Alike (fresh now) keyPrefix limitOf where
  now := rfl
  trails s := trails_fresh now s.text (s.storeKey keyPrefix)
  stored _ := rfl

variable {members : Nat → Member} {keyPrefix : String}
  (hshared : ∀ i, (members i).limiter.keyPrefix = keyPrefix)
  (name : String) {f g : Fleet Relay} {limitOf : String → Nat}

include hshared in
/-- A sound check is told what the store would say to the call, and leaves the store's count, up to
the limit, as it would be with the call in it: a call that is denied locally would be denied by the
store as well. -/
theorem Trails.check_sound {subject : Subject}
    (h : f.Trails subject.text (subject.storeKey keyPrefix)) (i : Nat) {limit : Nat}
    (hlimit : 0 < limit) (hwindow : (members i).limiter.window ≠ .zero) {newEnd : Instant}
    (hend : f.now.add? (members i).limiter.window = some newEnd) :
    let key := subject.storeKey keyPrefix
    let t := Tally.next (f.stored? key) newEnd
    let done := f.check members ((Relay.service name).backend .sound) i subject.text limit
    done.state.Trails subject.text key ∧
      (∃ d, done.answer = .ok d ∧ d.verdict = t.verdict f.now limit) ∧
      (done.state.stored? key).map (Tally.capped limit) = some (t.capped limit) := by
  have hsound := not_storeFailed_of_sound (f := f) name i limit subject.text
    (Option.isSome_iff_exists.mpr ⟨newEnd, hend⟩)
  obtain ⟨htrails, t, hstored, hdone⟩ := h.check hshared hlimit hwindow (d := .sound) trivial
    fun e he => hsound ⟨e, he⟩
  refine ⟨htrails, ?_⟩
  simp only [hstored, Option.map_some, Option.some.injEq]
  rcases hdone with ⟨hsame, hfull, hanswer⟩ | ⟨newEnd', hend', rfl, hanswer⟩
  · rw [hsame]
    exact ⟨⟨_, hanswer, Tally.verdict_exhausted f.now newEnd hfull⟩,
      Tally.capped_of_full newEnd hfull⟩
  · obtain rfl : newEnd = newEnd' := Option.some.inj (hend.symm.trans hend')
    exact ⟨⟨_, hanswer, rfl⟩, rfl⟩

namespace Alike

theorem within (h : f.Alike g keyPrefix limitOf) (s : Subject) (u : Tally)
    (hu : g.stored? (s.storeKey keyPrefix) = some u) : u.closesAt ≤ Instant.last := by
  have hstored := h.stored s
  rw [hu, Option.map_some] at hstored
  obtain ⟨t, ht, hcapped⟩ := Option.map_eq_some_iff.mp hstored
  exact (Tally.mk.inj hcapped).2 ▸ (h.trails s).within t ht

include hshared in
/-- A step that is not a check of anything keeps the two fleets alike. -/
theorem step (h : f.Alike g keyPrefix limitOf) {s : Step Delivery}
    (hs : ∀ subject, s.checks subject = false) (hforward : f.now ≤ s.clock f.now) :
    (f.step members (Relay.service name) s).state.Alike
      (g.step members (Relay.service name) s).state keyPrefix limitOf where
  now := by rw [now_step, now_step, h.now]
  trails subject := (h.trails subject).step hshared (hs subject.text) hforward
  stored subject := by
    rw [stored?_step hshared name f (hs subject.text) hforward,
      stored?_step hshared name g (hs subject.text) (h.now.symm ▸ hforward), h.now,
      Tally.map_capped_open?, Tally.map_capped_open?, h.stored]

include hshared in
/-- A check of a subject is decided, and told the same in both fleets, and keeps them alike. -/
theorem check (h : f.Alike g keyPrefix limitOf) (i : Nat) (subject : Subject)
    (hlimit : 0 < limitOf subject.text) (hwindow : (members i).limiter.window ≠ .zero)
    {newEnd : Instant} (hend : f.now.add? (members i).limiter.window = some newEnd) :
    let done := f.check members ((Relay.service name).backend .sound) i subject.text
      (limitOf subject.text)
    let straight := g.ask members ((Relay.service name).backend .sound) i subject
      (limitOf subject.text)
    (∃ d d', done.answer = .ok d ∧ straight.answer = .ok d' ∧ d.verdict = d'.verdict) ∧
      done.state.Alike straight.state keyPrefix limitOf := by
  obtain ⟨htrails, ⟨d, hanswer, hverdict⟩, hstored⟩ :=
    (h.trails subject).check_sound hshared name i hlimit hwindow hend
  obtain ⟨hadopts, hstraight⟩ := ask_sound hshared (f := g) name i subject (limitOf subject.text)
    hwindow (h.now.symm ▸ hend) (h.within subject)
  have hnext := Tally.verdict_next_of_capped (h.stored subject) f.now newEnd
  have hcapped := Tally.capped_next_of_capped (h.stored subject) newEnd
  refine ⟨⟨d, _, hanswer, hadopts.answer, ?_⟩, h.now, fun other => ?_, fun other => ?_⟩
  · rw [hverdict, hnext, ← h.now]
    rfl
  · by_cases hother : other.text = subject.text
    · obtain rfl : other = subject := Subject.ext hother
      exact htrails
    · exact (h.trails other).step hshared (s := .check i subject.text _ .sound)
        (decide_eq_false fun heq => hother heq.symm) (Nat.le_refl _)
  · by_cases hother : other.text = subject.text
    · obtain rfl : other = subject := Subject.ext hother
      rw [hstored, hstraight, Option.map_some, hcapped]
    · rw [stored?_check_of_ne hshared name .sound f i _ hother,
        stored?_ask_of_ne hshared name i subject _ .sound hother]
      exact h.stored other

include hshared in
/-- One step of the two runs: the answers are the same, and those to valid checks are decisions. -/
theorem stepStraight (h : f.Alike g keyPrefix limitOf) {s : Step Delivery}
    (hwindow : ∀ i, (members i).limiter.window ≠ .zero) (hforward : f.now ≤ s.clock f.now)
    (hreach : s.OnCheck fun i _ _ _ => (f.now.add? (members i).limiter.window).isSome = true)
    (hsame : s.OnCheck fun _ raw limit fares => limit = limitOf raw ∧ fares = .sound) :
    let done := f.step members (Relay.service name) s
    let straight := g.stepStraight members (Relay.service name) s
    done.answer.map (Except.map Decision.verdict) =
        straight.answer.map (Except.map Decision.verdict) ∧
      (s.OnCheck fun _ raw limit _ => raw ≠ "" → 0 < limit → ∃ d, done.answer = some (.ok d)) ∧
      done.state.Alike straight.state keyPrefix limitOf := by
  cases s with
  | check i raw limit fares =>
    obtain ⟨rfl, rfl⟩ := hsame
    by_cases hinvalid : raw = "" ∨ limitOf raw = 0
    · obtain ⟨e, he⟩ := check_of_invalid members ((Relay.service name).backend .sound) i hinvalid
      simp only [Fleet.step, Fleet.stepStraight, (he f).1, (he g).2]
      refine ⟨trivial, fun hraw hlimit => ?_, h⟩
      exact (hinvalid.elim hraw (Nat.ne_of_gt hlimit)).elim
    · obtain ⟨hraw, hlimit⟩ := not_or.mp hinvalid
      obtain ⟨subject, rfl⟩ : ∃ subject : Subject, raw = subject.text := ⟨⟨raw, hraw⟩, rfl⟩
      obtain ⟨newEnd, hend⟩ := Option.isSome_iff_exists.mp hreach
      have hpos := Nat.pos_of_ne_zero hlimit
      obtain ⟨⟨d, d', hanswer, hanswer', hverdict⟩, halike⟩ :=
        h.check hshared name i subject hpos (hwindow i) hend
      simp only [Fleet.step, Fleet.stepStraight, checkStraight_of_valid _ _ g i subject hpos,
        hanswer, hanswer']
      exact ⟨by simp only [Option.map_some, Except.map, hverdict], fun _ _ => ⟨d, rfl⟩, halike⟩
  | set _ | sweepCache _ | sweepStore =>
    exact ⟨rfl, trivial, h.step hshared name (fun _ => rfl) hforward⟩

include hshared in
/-- The two runs from fleets that are alike. -/
theorem verdicts_runStraight (h : f.Alike g keyPrefix limitOf) {steps : List (Step Delivery)}
    (hwindow : ∀ i, (members i).limiter.window ≠ .zero) (hforward : Forward f.now steps)
    (hreach : InReach members f.now steps)
    (hsame : ∀ s ∈ steps, s.OnCheck fun _ raw limit fares => limit = limitOf raw ∧ fares = .sound) :
    verdicts (f.run members (Relay.service name) steps).answer =
        verdicts (g.runStraight members (Relay.service name) steps).answer ∧
      ∀ p ∈ f.passages members (Relay.service name) steps,
        p.step.OnCheck fun _ raw limit _ =>
          raw ≠ "" → 0 < limit → ∃ d, p.answer = some (.ok d) := by
  induction steps generalizing f g with
  | nil => exact ⟨rfl, fun p hp => by cases hp⟩
  | cons s rest ih =>
    rw [List.forall_mem_cons] at hsame
    obtain ⟨hanswer, hdecided, halike⟩ :=
      h.stepStraight hshared name hwindow hforward.1 hreach.1 hsame.1
    obtain ⟨hrest, hdecisions⟩ :=
      ih halike (along_after _ _ hforward) (along_after _ _ hreach) hsame.2
    rw [passages, List.forall_mem_cons]
    exact ⟨List.cons_eq_cons.mpr ⟨hanswer, hrest⟩, hdecided, hdecisions⟩

end Alike

/-- The local denial changes no decision. If no call to the store fails, and each subject is always
checked under the same limit, then a run decides the same, apart from the source of the decisions,
as the run in which every check asks the store; and every check with valid arguments is decided. -/
theorem verdicts_straight (members : Nat → Member) (keyPrefix name : String)
    (hshared : ∀ i, (members i).limiter.keyPrefix = keyPrefix)
    (hwindow : ∀ i, (members i).limiter.window ≠ .zero)
    (start : Instant) (steps : List (Step Delivery)) (hforward : Forward start steps)
    (hreach : InReach members start steps) (limitOf : String → Nat)
    (hsame : ∀ s ∈ steps, s.OnCheck fun _ raw limit fares => limit = limitOf raw ∧ fares = .sound) :
    let service := Relay.service name
    verdicts ((fresh start).run members service steps).answer =
        verdicts ((fresh start).runStraight members service steps).answer ∧
      ∀ p ∈ (fresh start).passages members service steps,
        p.step.OnCheck fun _ raw limit _ =>
          raw ≠ "" → 0 < limit → ∃ d, p.answer = some (.ok d) :=
  (alike_fresh start keyPrefix limitOf).verdicts_runStraight hshared name hwindow hforward
    hreach hsame

/-- A third check under a limit of two is denied locally: the two runs decide the same, and their
stores have counted two calls and three. -/
theorem verdicts_straight_of_denial :
    let members (i : Nat) : Member := ⟨{ window := .ofSecs 1 }, i⟩
    let service := Relay.service "memory"
    let steps : List (Step Delivery) :=
      [.check 0 "a" 2 .sound, .check 1 "a" 2 .sound, .check 1 "a" 2 .sound]
    let denied := (fresh .zero).run members service steps
    let straight := (fresh .zero).runStraight members service steps
    verdicts denied.answer = verdicts straight.answer ∧
      denied.state.store.calls.length = 2 ∧ straight.state.store.calls.length = 3 := by
  intro members service steps denied straight
  obtain ⟨h, -⟩ := verdicts_straight members defaultKeyPrefix "memory" (fun _ => rfl)
    (fun _ => show Span.ofSecs 1 ≠ .zero by decide) .zero steps (by decide +zetaReduce)
    (by decide +zetaReduce) (fun _ => 2) (by decide +zetaReduce)
  exact ⟨h, by decide +kernel +zetaReduce, by decide +kernel +zetaReduce⟩

end Fleet

end FixedWindow
