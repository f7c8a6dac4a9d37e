import FixedWindow.Proofs.Fleet.Book
import FixedWindow.Proofs.Fleet.Outcome

/-!
# A store that comes and goes

Each answer of the store replaces the local count by the store's, which may be lower: what was
counted locally while the store was out of reach is forgotten, and a lone limiter may admit more
checks in one window than the limit says. How many more is bounded. As long as both counts are `0`,
the local one can rise to the limit, but the last of these calls has to be heard by the store if
more are to follow; it then stands at `1` in both tiers, and can rise to the limit once more. So at
most `limit + (limit - 1) + ⋯ + 1` checks are admitted.

The bound rests on a *budget* of the two counts, from which every admission takes at least one and
to which nothing is ever added while the first window lasts. A store that fails just so long that
the local count comes within one of the limit, and is then heard once, uses it up.

## Main definitions

* `triangle`, `budget`: what the two counts leave to be admitted.
* `Fleet.Passage.admits`: whether a step admits a check of a subject.
* `Fleet.OpenUntil`: no window of a subject closes before a horizon.
* `Fleet.flapping`: the deliveries that use up the budget.

## Main results

* `Fleet.OpenUntil.check`: what a check admits comes out of the budget.
* `Fleet.admissions_flapping`: the bound, and the run that attains it.
-/

namespace FixedWindow

/-! ### Budgets -/

/-- The count of a window, zero if none is open. -/
def Tally.countOf (o : Option Tally) : Nat := o.elim 0 Tally.count

@[simp] theorem Tally.countOf_some (t : Tally) : countOf (some t) = t.count := rfl

theorem Tally.count_next (o : Option Tally) (newEnd : Instant) :
    (next o newEnd).count = countOf o + 1 := by
  cases o <;> rfl

theorem Tally.countOf_lt {o : Option Tally} {limit : Nat} (hlimit : 0 < limit)
    (hroom : ∀ t, o = some t → t.count < limit) : countOf o < limit := by
  cases o with
  | none => exact hlimit
  | some t => exact hroom t rfl

theorem Tally.forall_next {P : Instant → Prop} {o : Option Tally} {newEnd : Instant}
    (h : ∀ t, o = some t → P t.closesAt) (hnew : o = none → P newEnd) :
    ∀ t, some (next o newEnd) = some t → P t.closesAt := by
  rintro _ ⟨⟩
  exact closesAt_next h hnew

/-- The sum of the numbers up to `n`. -/
def triangle (n : Nat) : Nat := n * (n + 1) / 2

theorem triangle_succ (n : Nat) : triangle (n + 1) = triangle n + (n + 1) := by
  have hproduct : (n + 1) * (n + 1 + 1) = n * (n + 1) + (n + 1) * 2 := by
    rw [Nat.mul_add (n + 1) n 2, Nat.mul_comm (n + 1) n]
  rw [triangle, hproduct, Nat.add_mul_div_right _ _ Nat.zero_lt_two, triangle]

theorem triangle_mono {m n : Nat} (h : m ≤ n) : triangle m ≤ triangle n :=
  Nat.div_le_div_right (Nat.mul_le_mul h (Nat.succ_le_succ h))

/-- What a limit leaves to be admitted: the local count may rise to the limit, and after each
further call that the store counts and is heard of, again from there. -/
def budget (limit stored cached : Nat) : Nat := (limit - cached) + triangle (limit - (stored + 1))

theorem budget_zero (limit : Nat) : budget limit 0 0 = triangle limit := by
  cases limit with
  | zero => rfl
  | succ n =>
    have hless : n + 1 - (0 + 1) = n := by omega
    rw [budget, hless, triangle_succ]
    omega

section Budget

variable {limit stored cached : Nat} (hroom : cached < limit)

include hroom

theorem budget_of_heard : budget limit (stored + 1) (stored + 1) < budget limit stored cached := by
  unfold budget
  cases hleft : limit - (stored + 1) with
  | zero =>
    have hnone : limit - (stored + 1 + 1) = 0 := by omega
    rw [hnone]
    omega
  | succ n =>
    have hless : limit - (stored + 1 + 1) = n := by omega
    rw [hless, triangle_succ]
    omega

theorem budget_of_counted {later : Nat} (hlater : stored ≤ later) :
    budget limit later (cached + 1) < budget limit stored cached := by
  have hless : triangle (limit - (later + 1)) ≤ triangle (limit - (stored + 1)) :=
    triangle_mono (by omega)
  unfold budget
  omega

end Budget

theorem Instant.le_of_add? {t now later : Instant} {d : Span} (h : t ≤ now)
    (hlater : now.add? d = some later) : (⟨t.nanos + d.nanos⟩ : Instant) ≤ later := by
  obtain ⟨-, rfl⟩ := add?_eq_some_iff.mp hlater
  exact Nat.add_le_add_right h d.nanos

theorem Tally.open?_eq_self {o : Option Tally} {horizon now : Instant}
    (h : ∀ t, o = some t → horizon ≤ t.closesAt) (hnow : now < horizon) : open? o now = o := by
  cases o with
  | none => rfl
  | some t => exact open?_of_lt (Nat.lt_of_lt_of_le hnow (h t rfl))

namespace Fleet

open Store (Relay Delivery)

variable {σ δ : Type}

/-- Whether the step is a check of the subject, and is allowed. -/
def Passage.admits (p : Passage σ δ) (subject : String) : Bool :=
  p.step.checks subject && match p.answer with
    | some (.ok d) => d.allowed
    | _ => false

theorem Passage.admits_eq_false {p : Passage σ δ} {subject : String}
    {answer : Except LimitError Decision} (hanswer : p.answer = some answer)
    (hdenied : ∀ d, answer = .ok d → d.allowed = false) : p.admits subject = false := by
  rw [admits, hanswer]
  cases answer with
  | error e => exact Bool.and_false _
  | ok d => exact (congrArg _ (hdenied d rfl)).trans (Bool.and_false _)

/-- No window that either tier shows of the subject closes before the horizon, and those of the
store close within the clock. -/
structure OpenUntil (f : Fleet Relay) (horizon : Instant) (subject key : String) : Prop where
  cached : ∀ t, f.cached? 0 subject = some t → horizon ≤ t.closesAt
  stored : ∀ u, f.stored? key = some u → horizon ≤ u.closesAt
  within : ∀ u, f.stored? key = some u → u.closesAt ≤ Instant.last

/-- What the counts of the two tiers leave to be admitted. -/
def budget (f : Fleet Relay) (limit : Nat) (subject key : String) : Nat :=
  FixedWindow.budget limit (Tally.countOf (f.stored? key)) (Tally.countOf (f.cached? 0 subject))

variable {l : Limiter} {name : String} {f : Fleet Relay} {subject : Subject} {limit : Nat}
  {horizon : Instant}

namespace OpenUntil

/-- Nothing but a check of the subject shows in either tier before the horizon. -/
theorem step (h : f.OpenUntil horizon subject.text (subject.storeKey l.keyPrefix))
    (name : String) (limit : Nat) {s : Step Delivery} (hs : s.checks subject.text = false)
    (hforward : f.now ≤ s.clock f.now) (hinside : s.clock f.now < horizon) :
    let after := (f.step (lone l) (Relay.service name) s).state
    after.OpenUntil horizon subject.text (subject.storeKey l.keyPrefix) ∧
      after.budget limit subject.text (subject.storeKey l.keyPrefix) =
        f.budget limit subject.text (subject.storeKey l.keyPrefix) := by
  have hcached := cached?_step (lone l) (Relay.service name) f 0 hs hforward
  have hstored := stored?_step (keyPrefix_lone l) name f hs hforward
  rw [Tally.open?_eq_self h.cached hinside] at hcached
  rw [Tally.open?_eq_self h.stored hinside] at hstored
  refine ⟨⟨?_, ?_, ?_⟩, ?_⟩
  · rw [hcached]; exact h.cached
  · rw [hstored]; exact h.stored
  · rw [hstored]; exact h.within
  · rw [budget, hcached, hstored, budget]

/-- What a check of the subject admits comes out of the budget. -/
theorem check (h : f.OpenUntil horizon subject.text (subject.storeKey l.keyPrefix))
    (name : String) (i : Nat) {d : Delivery} (hplain : d.IsPlain) (hlimit : 0 < limit)
    (hword : limit ≤ maxCount) (hwindow : l.window ≠ .zero)
    (hopens : ∀ newEnd, f.now.add? l.window = some newEnd → horizon ≤ newEnd) :
    let p := f.passage (lone l) (Relay.service name) (.check i subject.text limit d)
    p.after.OpenUntil horizon subject.text (subject.storeKey l.keyPrefix) ∧
      (if p.admits subject.text then 1 else 0) +
          p.after.budget limit subject.text (subject.storeKey l.keyPrefix) ≤
        f.budget limit subject.text (subject.storeKey l.keyPrefix) := by
  intro p
  have hatmost : (if p.admits subject.text then 1 else 0) ≤ 1 := by split <;> decide
  have hadopted {t : Tally} {source : Source} (hadopts : f.Adopts 0 subject.text limit t source
      (f.check (lone l) ((Relay.service name).backend d) i subject.text limit)) :
      p.after.cached? 0 subject.text = some t :=
    (hadopts.cached 0 subject.text).trans (if_pos ⟨rfl, rfl⟩)
  have hlast {newEnd : Instant} (hend : f.now.add? l.window = some newEnd) :
      ∀ u, some (Tally.next (f.stored? (subject.storeKey l.keyPrefix)) newEnd) = some u →
        u.closesAt ≤ Instant.last :=
    Tally.forall_next (P := (· ≤ Instant.last)) h.within fun _ => Instant.le_last_of_add? hend
  cases outcome_check (keyPrefix_lone l) name i subject hplain hlimit hword hwindow h.within with
  | denied t ht hfull hanswer hstate =>
    have hafter : p.after = f := hstate
    have hdenied : p.admits subject.text = false :=
      Passage.admits_eq_false (congrArg some hanswer) (by rintro _ ⟨⟩; rfl)
    rw [hafter, hdenied]
    exact ⟨h, Nat.le_of_eq (Nat.zero_add _)⟩
  | answered newEnd hend hroom hadopts hstored =>
    have hcached := hadopted hadopts
    have hstored : p.after.stored? (subject.storeKey l.keyPrefix) = _ := hstored
    have hopen := Tally.forall_next h.stored fun _ => hopens newEnd hend
    refine ⟨⟨?_, ?_, ?_⟩, ?_⟩
    · rw [hcached]; exact hopen
    · rw [hstored]; exact hopen
    · rw [hstored]; exact hlast hend
    · have hless : _ < f.budget limit subject.text (subject.storeKey l.keyPrefix) :=
        budget_of_heard (Tally.countOf_lt hlimit hroom)
      rw [budget, hcached, hstored, Tally.countOf_some, Tally.count_next]
      omega
  | counted newEnd hend hroom hadopts hstored =>
    have hcached : p.after.cached? 0 subject.text =
      some (Tally.next (f.cached? 0 subject.text) newEnd) := hadopted hadopts
    have hopen := Tally.forall_next h.cached fun hnone => hopens newEnd (hend hnone)
    -- the store may have counted the check too, which only takes more from the budget
    have hkept : (∀ u, p.after.stored? (subject.storeKey l.keyPrefix) = some u →
          horizon ≤ u.closesAt ∧ u.closesAt ≤ Instant.last) ∧
        Tally.countOf (f.stored? (subject.storeKey l.keyPrefix)) ≤
          Tally.countOf (p.after.stored? (subject.storeKey l.keyPrefix)) := by
      rcases hstored with hsame | ⟨hend, hnext⟩
      · rw [show p.after.stored? (subject.storeKey l.keyPrefix) = _ from hsame]
        exact ⟨fun u hu => ⟨h.stored u hu, h.within u hu⟩, Nat.le_refl _⟩
      · rw [show p.after.stored? (subject.storeKey l.keyPrefix) = _ from hnext,
          Tally.countOf_some, Tally.count_next]
        exact ⟨fun u hu => ⟨Tally.forall_next h.stored (fun _ => hopens newEnd hend) u hu,
          hlast hend u hu⟩, Nat.le_succ _⟩
    refine ⟨⟨?_, fun u hu => (hkept.1 u hu).1, fun u hu => (hkept.1 u hu).2⟩, ?_⟩
    · rw [hcached]; exact hopen
    · have hless : FixedWindow.budget limit
          (Tally.countOf (p.after.stored? (subject.storeKey l.keyPrefix)))
          (Tally.countOf (f.cached? 0 subject.text) + 1) <
            f.budget limit subject.text (subject.storeKey l.keyPrefix) :=
        budget_of_counted (Tally.countOf_lt hlimit hroom) hkept.2
      rw [budget, hcached, Tally.countOf_some, Tally.count_next]
      omega
  | refused hnone hend hanswer hcaches hstored =>
    have hcached : p.after.cached? 0 subject.text = f.cached? 0 subject.text :=
      congrArg (fun caches => (caches 0).tally? f.now subject.text) hcaches
    have hstored : p.after.stored? (subject.storeKey l.keyPrefix) = _ := hstored
    have hdenied : p.admits subject.text = false :=
      Passage.admits_eq_false (congrArg some hanswer) (by rintro _ ⟨⟩)
    refine ⟨⟨?_, ?_, ?_⟩, ?_⟩
    · rw [hcached]; exact h.cached
    · rw [hstored]; exact h.stored
    · rw [hstored]; exact h.within
    · rw [hdenied, budget, hcached, hstored]
      exact Nat.le_of_eq (Nat.zero_add _)

end OpenUntil

/-! ### Runs within the horizon -/

/-- What a run admits comes out of the budget, as long as the clock stays before the horizon. -/
theorem countP_admits_le {start : Instant} {steps : List (Step Delivery)}
    (h : f.OpenUntil horizon subject.text (subject.storeKey l.keyPrefix)) (hlimit : 0 < limit)
    (hword : limit ≤ maxCount) (hwindow : l.window ≠ .zero)
    (hhorizon : horizon = ⟨start.nanos + l.window.nanos⟩) (hstart : start ≤ f.now)
    (hforward : Forward f.now steps)
    (hinside : Along (fun now s => s.clock now < horizon) f.now steps)
    (hchecks : ∀ s ∈ steps, s.OnCheck fun _ raw used fares =>
      raw = subject.text → used = limit ∧ fares.IsPlain) :
    (f.passages (lone l) (Relay.service name) steps).countP (·.admits subject.text) ≤
      f.budget limit subject.text (subject.storeKey l.keyPrefix) := by
  induction steps generalizing f with
  | nil => exact Nat.zero_le _
  | cons s rest ih =>
    rw [List.forall_mem_cons] at hchecks
    have hlater : start ≤ (f.step (lone l) (Relay.service name) s).state.now :=
      Nat.le_trans hstart (now_le_step (lone l) (Relay.service name) hforward.1)
    have hrest (hopen : (f.step (lone l) (Relay.service name) s).state.OpenUntil horizon
        subject.text (subject.storeKey l.keyPrefix)) :=
      ih hopen hlater (along_after (lone l) (Relay.service name) hforward)
        (along_after (lone l) (Relay.service name) hinside) hchecks.2
    rw [passages, List.countP_cons]
    cases hs : s.checks subject.text with
    | false =>
      obtain ⟨hopen, hbudget⟩ := h.step name limit hs hforward.1 hinside.1
      have hnothing : (f.passage (lone l) (Relay.service name) s).admits subject.text = false :=
        (congrArg (· && _) hs).trans (Bool.false_and _)
      have hless := hrest hopen
      rw [hbudget] at hless
      rw [hnothing]
      exact hless
    | true =>
      obtain ⟨i, used, fares, rfl⟩ := Step.exists_of_checks hs
      obtain ⟨rfl, hplain⟩ := hchecks.1 rfl
      obtain ⟨hopen, hbudget⟩ := h.check name i hplain hlimit hword hwindow
        fun newEnd hend => hhorizon ▸ Instant.le_of_add? hstart hend
      have hless := hrest hopen
      exact Nat.le_trans (Nat.add_le_add_right hless _) (Nat.add_comm _ _ ▸ hbudget)

/-! ### The pattern that attains the bound -/

/-- Deliveries for a subject that may be checked `n` more times on the word of the store: before
each call that is heard, all but one of the calls that the local count has room for fail before
they are applied. -/
def flapping (e : StoreError) : Nat → List Delivery
  | 0 => []
  | n + 1 => List.replicate n (.lostBefore e) ++ .sound :: flapping e n

theorem length_flapping (e : StoreError) (n : Nat) : (flapping e n).length = triangle n := by
  induction n with
  | zero => rfl
  | succ n ih =>
    rw [flapping, List.length_append, List.length_replicate, List.length_cons, ih, triangle_succ]
    omega

theorem isPlain_flapping (e : StoreError) (n : Nat) : ∀ d ∈ flapping e n, d.IsPlain := by
  induction n with
  | zero => intro d hd; cases hd
  | succ n ih =>
    intro d hd
    rcases List.mem_append.mp hd with hlost | hrest
    · rw [(List.mem_replicate.mp hlost).2]
      trivial
    · rcases List.mem_cons.mp hrest with rfl | hd
      · trivial
      · exact ih d hd

/-- The run of checks of a subject under given deliveries. -/
def checksUnder (subject : String) (limit : Nat) (ds : List Delivery) : List (Step Delivery) :=
  ds.map (.check 0 subject limit)

theorem checksUnder_append (subject : String) (limit : Nat) (ds ds' : List Delivery) :
    checksUnder subject limit (ds ++ ds') =
      checksUnder subject limit ds ++ checksUnder subject limit ds' :=
  List.map_append

theorem Adopts.admits {i : Nat} {d : Delivery} {t : Tally} {source : Source}
    (h : f.Adopts 0 subject.text limit t source
      (f.check (lone l) ((Relay.service name).backend d) i subject.text limit))
    (hle : t.count ≤ limit) :
    (f.passage (lone l) (Relay.service name) (.check i subject.text limit d)).admits
      subject.text := by
  have hchecks : (Step.check i subject.text limit d).checks subject.text = true :=
    decide_eq_true rfl
  have hanswer : (f.passage (lone l) (Relay.service name) (.check i subject.text limit d)).answer =
      some (.ok (.ofCount t.count limit (t.closesAt.since f.now) source)) :=
    congrArg some h.answer
  rw [Passage.admits, hanswer]
  exact (Bool.and_eq_true _ _).mpr ⟨hchecks, Decision.allowed_ofCount.mpr hle⟩

section Attained

variable {newEnd : Instant} (hlimit : 0 < limit) (hword : limit ≤ maxCount)
  (hwindow : l.window ≠ .zero)

include hlimit hword hwindow

/-- While calls fail before they are applied, the local count rises and each check is admitted, as
long as the limit leaves room. -/
theorem admits_replicate_lostBefore (name : String) (e : StoreError) (n : Nat)
    (hend : f.now.add? l.window = some newEnd)
    (hroom : Tally.countOf (f.cached? 0 subject.text) + n ≤ limit) :
    let steps := checksUnder subject.text limit (List.replicate n (.lostBefore e))
    let after := (f.run (lone l) (Relay.service name) steps).state
    (∀ p ∈ f.passages (lone l) (Relay.service name) steps, p.admits subject.text) ∧
      after.now = f.now ∧
      after.stored? (subject.storeKey l.keyPrefix) = f.stored? (subject.storeKey l.keyPrefix) ∧
      Tally.countOf (after.cached? 0 subject.text) =
        Tally.countOf (f.cached? 0 subject.text) + n := by
  induction n generalizing f with
  | zero => exact ⟨fun p hp => (by cases hp), rfl, rfl, rfl⟩
  | succ n ih =>
    have hless (t : Tally) (ht : f.cached? 0 subject.text = some t) : t.count < limit := by
      rw [ht, Tally.countOf_some] at hroom
      omega
    have hcheck := check_of_room (lone l) 0 hlimit hless
      ((Relay.service name).backend (.lostBefore e))
    have hadopts := ask_of_failure (lone l) 0 limit
      ((Relay.service name).backend (.lostBefore e)) rfl hwindow (fun _ => hend)
      fun t ht => Nat.lt_of_lt_of_le (hless t ht) hword
    rw [← hcheck] at hadopts
    have hcached := (hadopts.cached 0 subject.text).trans (if_pos ⟨rfl, rfl⟩)
    have hcount : Tally.countOf ((f.check (lone l) ((Relay.service name).backend (.lostBefore e)) 0
        subject.text limit).state.cached? 0 subject.text) =
          Tally.countOf (f.cached? 0 subject.text) + 1 := by
      rw [hcached, Tally.countOf_some, Tally.count_next]
      rfl
    obtain ⟨hadmitted, hnow, hstored, hcounts⟩ :=
      ih (f := (f.check (lone l) ((Relay.service name).backend (.lostBefore e)) 0 subject.text
        limit).state) hend (by rw [hcount]; omega)
    refine ⟨List.forall_mem_cons.mpr ⟨hadopts.admits ?_, hadmitted⟩, hnow, hstored.trans ?_,
      hcounts.trans ?_⟩
    · rw [Tally.count_next]
      exact Tally.countOf_lt hlimit hless
    · rw [hcheck]
      rfl
    · rw [hcount]
      omega

omit hword in
/-- A check that is heard is admitted, if the store's count leaves room; both tiers then hold the
store's tally with the check in it. -/
theorem admits_sound (name : String) (hend : f.now.add? l.window = some newEnd)
    (hcached : Tally.countOf (f.cached? 0 subject.text) < limit)
    (hstored : Tally.countOf (f.stored? (subject.storeKey l.keyPrefix)) < limit)
    (hlast : ∀ u, f.stored? (subject.storeKey l.keyPrefix) = some u →
      u.closesAt ≤ Instant.last) :
    let p := f.passage (lone l) (Relay.service name) (.check 0 subject.text limit .sound)
    p.admits subject.text ∧ p.after.now = f.now ∧ ∃ t,
      p.after.stored? (subject.storeKey l.keyPrefix) = some t ∧
      p.after.cached? 0 subject.text = some t ∧ t.closesAt ≤ Instant.last ∧
      t.count = Tally.countOf (f.stored? (subject.storeKey l.keyPrefix)) + 1 := by
  intro p
  have hless (t : Tally) (ht : f.cached? 0 subject.text = some t) : t.count < limit := by
    rwa [ht, Tally.countOf_some] at hcached
  have hcheck := check_of_room (lone l) 0 hlimit hless ((Relay.service name).backend .sound)
  obtain ⟨hadopts, hkept⟩ :=
    ask_sound (keyPrefix_lone l) name 0 subject limit hwindow hend hlast
  rw [← hcheck] at hadopts hkept
  have hcount := Tally.count_next (f.stored? (subject.storeKey l.keyPrefix)) newEnd
  refine ⟨hadopts.admits (hcount ▸ hstored), rfl, _, hkept,
    (hadopts.cached 0 subject.text).trans (if_pos ⟨rfl, rfl⟩), ?_, hcount⟩
  exact Tally.closesAt_next (P := (· ≤ Instant.last)) hlast fun _ => Instant.le_last_of_add? hend

/-- If both counts leave room for `n` more calls that are heard, every check under the pattern is
admitted. -/
theorem admits_flapping (name : String) (e : StoreError) (n : Nat)
    (hend : f.now.add? l.window = some newEnd)
    (hstored : Tally.countOf (f.stored? (subject.storeKey l.keyPrefix)) + n = limit)
    (hcached : Tally.countOf (f.cached? 0 subject.text) + n = limit)
    (hlast : ∀ u, f.stored? (subject.storeKey l.keyPrefix) = some u →
      u.closesAt ≤ Instant.last) :
    ∀ p ∈ f.passages (lone l) (Relay.service name)
      (checksUnder subject.text limit (flapping e n)), p.admits subject.text := by
  induction n generalizing f with
  | zero => intro p hp; cases hp
  | succ n ih =>
    have hroom : Tally.countOf (f.cached? 0 subject.text) + n ≤ limit := by omega
    obtain ⟨hadmitted, hnow, hsame, hcount⟩ :=
      admits_replicate_lostBefore hlimit hword hwindow name e n hend hroom
    rw [flapping, checksUnder_append, passages_append, List.forall_mem_append]
    refine ⟨hadmitted, ?_⟩
    generalize (f.run (lone l) (Relay.service name) (checksUnder subject.text limit
      (List.replicate n (.lostBefore e)))).state = g at hnow hsame hcount ⊢
    rw [← hnow] at hend
    rw [← hsame] at hstored hlast
    obtain ⟨hadmits, hstill, t, hkept, hseen, hends, hnext⟩ :=
      admits_sound hlimit hwindow name hend (by omega) (by omega) hlast
    refine List.forall_mem_cons.mpr ⟨hadmits, ih ?_ ?_ ?_ ?_⟩
    · rw [hstill]; exact hend
    · rw [hkept, Tally.countOf_some]; omega
    · rw [hseen, Tally.countOf_some]; omega
    · intro u hu
      cases hkept.symm.trans hu
      exact hends

end Attained

/-- Of the checks of a subject that a lone limiter makes within one window of the first, when no
window of the subject is open in either tier, at most `limit * (limit + 1) / 2` are admitted,
however their calls to the store fare; and as long as the clock can hold a window, there is a
pattern of failures under which so many checks are made and all are admitted. -/
theorem admissions_flapping (l : Limiter) (name : String) (hwindow : l.window ≠ .zero)
    (subject : Subject) (limit : Nat) (hlimit : 0 < limit) (hword : limit ≤ maxCount)
    (f : Fleet Relay) (hcached : f.cached? 0 subject.text = none)
    (hstored : f.stored? (subject.storeKey l.keyPrefix) = none) :
    let admitted (steps : List (Step Delivery)) :=
      (f.passages (lone l) (Relay.service name) steps).countP (·.admits subject.text)
    (∀ steps, Forward f.now steps →
        Along (fun now s => s.clock now < ⟨f.now.nanos + l.window.nanos⟩) f.now steps →
        (∀ s ∈ steps, s.OnCheck fun _ raw used fares =>
          raw = subject.text → used = limit ∧ fares.IsPlain) →
        admitted steps ≤ limit * (limit + 1) / 2) ∧
      ((f.now.add? l.window).isSome = true → ∃ pattern : List Delivery,
        (∀ d ∈ pattern, d.IsPlain) ∧ pattern.length = limit * (limit + 1) / 2 ∧
          admitted (pattern.map (.check 0 subject.text limit)) = limit * (limit + 1) / 2) := by
  intro admitted
  have hbudget : f.budget limit subject.text (subject.storeKey l.keyPrefix) =
      limit * (limit + 1) / 2 := by
    rw [budget, hcached, hstored]
    exact budget_zero limit
  have hopen : f.OpenUntil ⟨f.now.nanos + l.window.nanos⟩ subject.text
      (subject.storeKey l.keyPrefix) :=
    ⟨fun t ht => (by cases hcached.symm.trans ht), fun u hu => (by cases hstored.symm.trans hu),
      fun u hu => (by cases hstored.symm.trans hu)⟩
  refine ⟨fun steps hforward hinside hchecks => ?_, fun hreach => ?_⟩
  · rw [← hbudget]
    exact countP_admits_le hopen hlimit hword hwindow rfl (Nat.le_refl _) hforward hinside hchecks
  · obtain ⟨newEnd, hend⟩ := Option.isSome_iff_exists.mp hreach
    have hadmits := admits_flapping hlimit hword hwindow name .redis limit hend
      (by rw [hstored]; exact Nat.zero_add _) (by rw [hcached]; exact Nat.zero_add _) hopen.within
    refine ⟨flapping .redis limit, isPlain_flapping .redis limit, length_flapping .redis limit, ?_⟩
    have hall := List.countP_eq_length.mpr hadmits
    rw [length_passages, checksUnder, List.length_map, length_flapping] at hall
    exact hall

/-- Under a limit of two, three checks are admitted: the first is counted locally, the second by the
store, which has not counted the first, and so is the third. -/
theorem admissions_flapping_of_two :
    let l : Limiter := { window := .ofSecs 1 }
    let admitted (steps : List (Step Delivery)) :=
      ((fresh .zero).passages (lone l) (Relay.service "memory") steps).countP (·.admits "a")
    let steps : List (Step Delivery) :=
      [.check 0 "a" 2 (.lostBefore .redis), .check 0 "a" 2 .sound, .sweepStore,
        .set ⟨nanosPerSec - 1⟩, .check 0 "a" 2 .sound, .check 0 "a" 2 .sound]
    admitted steps = 3 ∧ admitted steps ≤ 2 * (2 + 1) / 2 ∧
      ∃ pattern : List Delivery, admitted (pattern.map (.check 0 "a" 2)) = 3 := by
  intro l admitted steps
  obtain ⟨hbound, hattained⟩ := admissions_flapping l "memory" (by decide +zetaReduce)
    ⟨"a", by decide⟩ 2 (by decide) (by decide) (fresh .zero) rfl rfl
  obtain ⟨pattern, -, -, hpattern⟩ := hattained (by decide +zetaReduce)
  exact ⟨by decide +kernel +zetaReduce, hbound steps (by decide +zetaReduce)
    (by decide +zetaReduce) (by decide +zetaReduce), pattern, hpattern⟩

end Fleet

end FixedWindow
