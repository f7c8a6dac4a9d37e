import FixedWindow.Proofs.Sweeper.Deadlines

/-!
# Several sweepers on one timer

When the timer of several sweepers is moved, those whose deadlines are reached sweep their cache, at
the instant that its clock then shows; the others do nothing. All of them sweep at the same instant,
so it does not matter in which order they wake or how often each of them sweeps.

## Main definitions

* `SweeperPool.OnTime`, `SweeperPool.IsDue`, `SweeperPool.IsRunning`.
* `SweeperPool.wakeOne`: one of several sweepers wakes.

## Main results

* `SweeperPool.onTime_moveTimer`: after a move of the timer every running sweeper is on time.
* `SweeperPool.cache_moveTimer_of_isDue`, `SweeperPool.moveTimer_of_not_isDue`: what a move of the
  timer does to the cache.
* `SweeperPool.onTime_spawn`, `SweeperPool.onTime_onSweeper`: so it stays when sweepers are started
  and ended.
* `SweeperPool.isRunning_spawn`, `SweeperPool.IsRunning.moveTimer`: a sweeper that is started runs,
  and goes on running when the timer is moved.
-/

namespace FixedWindow

theorem Sweeper.deadline?_eq_some_iff {s : Sweeper} {deadline : Instant} :
    s.deadline? = some deadline ↔ s.status = .running deadline := by
  unfold deadline?
  cases s.status <;> simp

namespace SweeperPool

/-- Every sweeper that is running is on time. -/
def OnTime (p : SweeperPool) : Prop := ∀ s ∈ p.sweepers, s.OnTime p.time

/-- The deadline of some running sweeper is reached. -/
def IsDue (p : SweeperPool) : Prop := ∃ s ∈ p.sweepers, s.IsDue p.time

/-- The sweeper numbered `j` is running, with an interval. -/
def IsRunning (p : SweeperPool) (j : Nat) (interval : Span) : Prop :=
  ∃ deadline, p.sweepers[j]? = some ⟨interval, .running deadline⟩

variable {p : SweeperPool} {j : Nat} {s : Sweeper}

/-! ### Waking several sweepers -/

/-- Wakes the sweeper numbered `i`, if there is one. -/
def wakeOne (p : SweeperPool) (cache : Cache) (now : Instant) (i : Nat) : SweeperPool × Cache :=
  match p.sweepers[i]? with
  | none => (p, cache)
  | some s =>
    let done := s.wake p.time cache now
    ({ p with sweepers := p.sweepers.set i done.state.1 }, done.state.2)

theorem state_wakeEach_cons (p : SweeperPool) (cache : Cache) (now : Instant) (i : Nat)
    (rest : List Nat) :
    (p.wakeEach cache now (i :: rest)).state =
      ((p.wakeOne cache now i).1.wakeEach (p.wakeOne cache now i).2 now rest).state := by
  rw [wakeEach, wakeOne]
  cases p.sweepers[i]? <;> rfl

theorem time_wakeOne (p : SweeperPool) (cache : Cache) (now : Instant) (i : Nat) :
    (p.wakeOne cache now i).1.time = p.time := by
  unfold wakeOne
  split <;> rfl

theorem sweepers_wakeOne_of_ne (p : SweeperPool) (cache : Cache) (now : Instant) {i : Nat}
    (h : i ≠ j) : (p.wakeOne cache now i).1.sweepers[j]? = p.sweepers[j]? := by
  unfold wakeOne
  split
  · rfl
  · exact List.getElem?_set_ne h

theorem wakeOne_self (hs : p.sweepers[j]? = some s) (cache : Cache) (now : Instant) :
    (p.wakeOne cache now j).1.sweepers[j]? = some (s.wake p.time cache now).state.1 ∧
      (p.wakeOne cache now j).2 = (s.wake p.time cache now).state.2 := by
  obtain ⟨hlt, -⟩ := List.getElem?_eq_some_iff.mp hs
  simp only [wakeOne, hs]
  exact ⟨List.getElem?_set_self hlt, trivial⟩

theorem sweepers_wakeOne_of_not_isDue (hs : p.sweepers[j]? = some s) (h : ¬ s.IsDue p.time)
    (cache : Cache) (now : Instant) (i : Nat) :
    (p.wakeOne cache now i).1.sweepers[j]? = some s := by
  by_cases hij : i = j
  · subst hij
    rw [(wakeOne_self hs cache now).1, s.wake_of_not_isDue h]
  · rw [p.sweepers_wakeOne_of_ne cache now hij, hs]

theorem cache_wakeOne (p : SweeperPool) (cache : Cache) (now : Instant) (i : Nat) :
    (p.wakeOne cache now i).2 = cache ∨ (p.wakeOne cache now i).2 = (cache.sweep now).state := by
  unfold wakeOne
  split
  · exact .inl rfl
  · rename_i s _
    by_cases hdue : s.IsDue p.time
    · exact .inr (s.cache_wake_of_isDue hdue cache now)
    · exact .inl (congrArg Prod.snd (s.wake_of_not_isDue hdue cache now))

theorem wakeOne_of_not_isDue (h : ¬ p.IsDue) (cache : Cache) (now : Instant) (i : Nat) :
    p.wakeOne cache now i = (p, cache) := by
  unfold wakeOne
  split
  · rfl
  · rename_i s hs
    have hnot : ¬ s.IsDue p.time := fun hdue => h ⟨s, List.mem_of_getElem? hs, hdue⟩
    obtain ⟨hlt, rfl⟩ := List.getElem?_eq_some_iff.mp hs
    simp only [Sweeper.wake_of_not_isDue hnot, List.set_getElem_self]

theorem time_wakeEach (p : SweeperPool) (cache : Cache) (now : Instant) (is : List Nat) :
    (p.wakeEach cache now is).state.1.time = p.time := by
  induction is generalizing p cache with
  | nil => rfl
  | cons i rest ih => rw [state_wakeEach_cons, ih, time_wakeOne]

/-- Of the sweepers that wake, each is on time at the end. -/
theorem onTime_wakeEach (hset : ∀ s, p.sweepers[j]? = some s → s.IsSet p.time) {is : List Nat}
    (hj : j ∈ is ∨ ∀ s, p.sweepers[j]? = some s → s.OnTime p.time) (cache : Cache)
    (now : Instant) :
    ∀ s, (p.wakeEach cache now is).state.1.sweepers[j]? = some s → s.OnTime p.time := by
  induction is generalizing p cache with
  | nil => exact hj.resolve_left List.not_mem_nil
  | cons i rest ih =>
    have htime := p.time_wakeOne cache now i
    rw [state_wakeEach_cons, ← htime]
    by_cases hij : i = j
    · subst hij
      -- after its turn a sweeper is on time, and so it is set when it wakes once more
      have hfirst : ∀ s, (p.wakeOne cache now i).1.sweepers[i]? = some s → s.OnTime p.time := by
        intro s' hs'
        cases hs : p.sweepers[i]? with
        | none => simp [wakeOne, hs] at hs'
        | some s =>
          rw [(wakeOne_self hs cache now).1] at hs'
          cases hs'
          exact Sweeper.onTime_wake (hset s hs) p.time_le cache now
      exact ih (fun s' hs' => htime ▸ (hfirst s' hs').isSet (Nat.le_refl _))
        (.inr fun s' hs' => htime ▸ hfirst s' hs') _
    · have hsame := p.sweepers_wakeOne_of_ne cache now hij
      refine ih (fun s' hs' => htime ▸ hset s' (hsame ▸ hs')) (hj.imp (fun hmem => ?_) ?_) _
      · exact (List.mem_cons.mp hmem).resolve_left (Ne.symm hij)
      · exact fun h s' hs' => htime ▸ h s' (hsame ▸ hs')

theorem sweepers_wakeEach_of_not_isDue (hs : p.sweepers[j]? = some s) (h : ¬ s.IsDue p.time)
    (cache : Cache) (now : Instant) (is : List Nat) :
    (p.wakeEach cache now is).state.1.sweepers[j]? = some s := by
  induction is generalizing p cache with
  | nil => exact hs
  | cons i rest ih =>
    rw [state_wakeEach_cons]
    exact ih (sweepers_wakeOne_of_not_isDue hs h cache now i)
      (by rwa [p.time_wakeOne cache now i]) _

theorem cache_wakeEach (p : SweeperPool) (cache : Cache) (now : Instant) (is : List Nat) :
    (p.wakeEach cache now is).state.2 = cache ∨
      (p.wakeEach cache now is).state.2 = (cache.sweep now).state := by
  induction is generalizing p cache with
  | nil => exact .inl rfl
  | cons i rest ih =>
    rw [state_wakeEach_cons]
    rcases p.cache_wakeOne cache now i with hfirst | hfirst
    · rw [hfirst]
      exact ih _ cache
    · rcases ih (p.wakeOne cache now i).1 (p.wakeOne cache now i).2 with hrest | hrest
      · exact .inr (hrest.trans hfirst)
      · rw [hrest, hfirst, Sweeper.sweep_sweep]
        exact .inr rfl

/-- One sweeper whose deadline is reached is enough for the cache to be swept. -/
theorem cache_wakeEach_of_isDue (hs : p.sweepers[j]? = some s) (h : s.IsDue p.time)
    (cache : Cache) (now : Instant) {is : List Nat} (hj : j ∈ is) :
    (p.wakeEach cache now is).state.2 = (cache.sweep now).state := by
  induction is generalizing p cache with
  | nil => cases hj
  | cons i rest ih =>
    rw [state_wakeEach_cons]
    by_cases hij : i = j
    · subst hij
      have hfirst : (p.wakeOne cache now i).2 = (cache.sweep now).state := by
        rw [(wakeOne_self hs cache now).2, s.cache_wake_of_isDue h]
      rw [hfirst]
      rcases (p.wakeOne cache now i).1.cache_wakeEach (cache.sweep now).state now rest with
        hrest | hrest
      · exact hrest
      · exact hrest.trans (Sweeper.sweep_sweep cache now)
    · have hrest := (List.mem_cons.mp hj).resolve_left (Ne.symm hij)
      have hj' := (p.sweepers_wakeOne_of_ne cache now hij).trans hs
      rw [ih hj' (by rwa [p.time_wakeOne cache now i]) _ hrest]
      rcases p.cache_wakeOne cache now i with hfirst | hfirst
      · rw [hfirst]
      · rw [hfirst, Sweeper.sweep_sweep]

theorem wakeEach_of_not_isDue (h : ¬ p.IsDue) (cache : Cache) (now : Instant)
    (is : List Nat) : (p.wakeEach cache now is).state = (p, cache) := by
  induction is with
  | nil => rfl
  | cons i rest ih => rw [state_wakeEach_cons, wakeOne_of_not_isDue h, ih]

theorem mem_wakeOrder_iff :
    j ∈ p.wakeOrder ↔ ∃ s deadline, p.sweepers[j]? = some s ∧ s.status = .running deadline := by
  simp only [wakeOrder, List.mem_map, List.mem_mergeSort, List.mem_filterMap, Prod.exists,
    List.mem_zipIdx_iff_getElem?, Option.map_eq_some_iff, Sweeper.deadline?_eq_some_iff]
  constructor
  · rintro ⟨_, _, ⟨s, _, hs, deadline, hrunning, hrow⟩, rfl⟩
    cases hrow
    exact ⟨s, deadline, hs, hrunning⟩
  · rintro ⟨s, deadline, hs, hrunning⟩
    exact ⟨_, j, ⟨s, j, hs, deadline, hrunning, rfl⟩, rfl⟩

/-! ### Moving the timer -/

section

variable (d : Span) (cache : Cache) (now : Instant)

theorem time_moveTimer (p : SweeperPool) :
    (p.moveTimer d cache now).state.1.time = (p.later d).time :=
  time_wakeEach _ cache now _

theorem time_le_later (p : SweeperPool) : p.time ≤ (p.later d).time :=
  Nat.le_min.mpr ⟨Nat.le_add_right _ _, p.time_le⟩

/-- After a move of the timer every running sweeper is on time. -/
theorem onTime_moveTimer (h : p.OnTime) : (p.moveTimer d cache now).state.1.OnTime := by
  intro s' hs'
  obtain ⟨j, hj⟩ := List.mem_iff_getElem?.mp hs'
  rw [time_moveTimer]
  have hset : ∀ s, (p.later d).sweepers[j]? = some s → s.IsSet (p.later d).time := fun s hs =>
    (h s (List.mem_of_getElem? hs)).isSet (p.time_le_later d)
  refine onTime_wakeEach hset ?_ cache now s' hj
  by_cases hwakes : j ∈ p.wakeOrder
  · exact .inl hwakes
  · exact .inr fun s hs => Sweeper.onTime_of_not_running fun deadline hrunning =>
      hwakes (mem_wakeOrder_iff.mpr ⟨s, deadline, hs, hrunning⟩)

/-- If a deadline is reached when the timer is moved, the cache is swept. -/
theorem cache_moveTimer_of_isDue (h : (p.later d).IsDue) :
    (p.moveTimer d cache now).state.2 = (cache.sweep now).state := by
  obtain ⟨s, hs, hdue⟩ := h
  obtain ⟨j, hj⟩ := List.mem_iff_getElem?.mp hs
  obtain ⟨deadline, hrunning, -⟩ := id hdue
  exact cache_wakeEach_of_isDue hj hdue cache now
    (mem_wakeOrder_iff.mpr ⟨s, deadline, hj, hrunning⟩)

/-- Otherwise nothing happens but that time goes by. -/
theorem moveTimer_of_not_isDue (h : ¬ (p.later d).IsDue) :
    (p.moveTimer d cache now).state = (p.later d, cache) :=
  wakeEach_of_not_isDue h cache now _

theorem sweepers_moveTimer_of_not_isDue (hs : p.sweepers[j]? = some s)
    (h : ¬ s.IsDue (p.later d).time) : (p.moveTimer d cache now).state.1.sweepers[j]? = some s :=
  have hlater : (p.later d).sweepers[j]? = some s := hs
  sweepers_wakeEach_of_not_isDue hlater h cache now _

end

/-- A sweeper that is running goes on when one of them wakes. -/
theorem IsRunning.wakeOne {interval : Span} (h : p.IsRunning j interval) (cache : Cache)
    (now : Instant) (i : Nat) : (p.wakeOne cache now i).1.IsRunning j interval := by
  obtain ⟨deadline, hs⟩ := h
  by_cases hij : i = j
  · subst hij
    exact ⟨_, (wakeOne_self hs cache now).1⟩
  · exact ⟨deadline, (p.sweepers_wakeOne_of_ne cache now hij).trans hs⟩

theorem IsRunning.wakeEach {interval : Span} (h : p.IsRunning j interval) (cache : Cache)
    (now : Instant) (is : List Nat) :
    (p.wakeEach cache now is).state.1.IsRunning j interval := by
  induction is generalizing p cache with
  | nil => exact h
  | cons i rest ih =>
    rw [state_wakeEach_cons]
    exact ih (h.wakeOne cache now i) _

theorem IsRunning.moveTimer {interval : Span} (h : p.IsRunning j interval) (d : Span)
    (cache : Cache) (now : Instant) : (p.moveTimer d cache now).state.1.IsRunning j interval :=
  have hlater : (p.later d).IsRunning j interval := h
  hlater.wakeEach cache now _

/-! ### Starting and ending -/

theorem onTime_spawn (h : p.OnTime) (interval : Span) : (p.spawn interval).state.OnTime := by
  intro s hs
  rcases List.mem_append.mp hs with hold | hnew
  · exact h s hold
  · rw [List.mem_singleton.mp hnew]
    exact Sweeper.onTime_start interval p.time_le

theorem onTime_onSweeper (h : p.OnTime) (i : Nat) {op : Sweeper → Effect Sweeper Unit}
    (hop : ∀ s, (op s).state.status = .ended) : (p.onSweeper i op).state.OnTime := by
  unfold onSweeper
  split
  · exact h
  · intro s' hs'
    rcases List.mem_or_eq_of_mem_set hs' with hold | rfl
    · exact h s' hold
    · exact Sweeper.onTime_of_not_running fun deadline hrunning => by
        cases (hop _).symm.trans hrunning

theorem sweepers_onSweeper_of_ne (p : SweeperPool) {i : Nat} (hij : i ≠ j)
    (op : Sweeper → Effect Sweeper Unit) :
    (p.onSweeper i op).state.sweepers[j]? = p.sweepers[j]? := by
  unfold onSweeper
  split
  · rfl
  · exact List.getElem?_set_ne hij

theorem sweepers_onSweeper_self (hs : p.sweepers[j]? = some s)
    (op : Sweeper → Effect Sweeper Unit) :
    (p.onSweeper j op).state.sweepers[j]? = some (op s).state := by
  obtain ⟨hlt, -⟩ := List.getElem?_eq_some_iff.mp hs
  simp only [onSweeper, hs]
  exact List.getElem?_set_self hlt

theorem time_onSweeper (p : SweeperPool) (i : Nat) (op : Sweeper → Effect Sweeper Unit) :
    (p.onSweeper i op).state.time = p.time := by
  unfold onSweeper
  split <;> rfl

/-- A sweeper with an interval is running as soon as it is started, as the last of them. -/
theorem isRunning_spawn (p : SweeperPool) {interval : Span} (hinterval : interval ≠ .zero) :
    (p.spawn interval).state.IsRunning p.sweepers.length interval := by
  refine ⟨Sweeper.deadlineAfter p.time interval p.time, ?_⟩
  simp only [spawn, Sweeper.state_start hinterval, List.getElem?_concat_length]

theorem sweepers_spawn (hs : p.sweepers[j]? = some s) (interval : Span) :
    (p.spawn interval).state.sweepers[j]? = some s := by
  obtain ⟨hlt, -⟩ := List.getElem?_eq_some_iff.mp hs
  exact (List.getElem?_append_left hlt).trans hs

end SweeperPool

end FixedWindow
