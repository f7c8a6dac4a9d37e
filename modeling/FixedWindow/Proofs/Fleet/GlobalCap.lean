import FixedWindow.Proofs.Fleet.Trailing

/-!
# One limit for all limiters

Limiters that share an in-memory store and a key prefix share the limit of a subject. A window of
the subject is known by its end: the checks made in it are those after which the store has a window
open that ends there, from the check that opens it on.

However the calls to the store fare, each check that the store admits has raised the store's count,
and was admitted because the count was within the limit; so within one window there are at most as
many of them as the limit says. If no call fails, the store's count is exact up to the limit, and
the answers within a window are the same as if there were one counter: the limit counted down.

## Main definitions

* `Fleet.Passage.windowEnd?`, `Fleet.checksInWindow`: the checks of a subject in one window.
* `Fleet.Passage.admittedByStore`: whether the store admitted a call.

## Main results

* `Fleet.admissions_in_window`: at most the limit is admitted by the store in a window; and if no
  call to the store fails, the limit is counted down there exactly.
-/

namespace FixedWindow.Fleet

open Store (Relay Delivery)

variable {σ δ : Type}

namespace Passage

/-- The end of the window that the store has open under a key after the step. -/
def windowEnd? (p : Passage Relay δ) (key : String) : Option Instant :=
  (p.after.stored? key).map Tally.closesAt

/-- Whether the step was allowed on the word of the store. -/
def admittedByStore (p : Passage σ δ) : Bool :=
  match p.answer with
  | some (.ok d) => d.allowed && d.source = .store
  | _ => false

/-- Whether the step is a check of the subject in the window of its key that ends at `closesAt`. -/
def checksIn (p : Passage Relay δ) (subject : Subject) (keyPrefix : String) (closesAt : Instant) :
    Bool :=
  p.step.checks subject.text && p.windowEnd? (subject.storeKey keyPrefix) = some closesAt

theorem checksIn_iff {p : Passage Relay δ} {subject : Subject} {keyPrefix : String}
    {closesAt : Instant} :
    p.checksIn subject keyPrefix closesAt ↔ p.step.checks subject.text ∧
      ∃ t, p.after.stored? (subject.storeKey keyPrefix) = some t ∧ t.closesAt = closesAt := by
  rw [checksIn, Bool.and_eq_true, decide_eq_true_eq, windowEnd?, Option.map_eq_some_iff]

theorem lt_of_checksIn {p : Passage Relay δ} {subject : Subject} {keyPrefix : String}
    {closesAt : Instant} (h : p.checksIn subject keyPrefix closesAt) : p.after.now < closesAt := by
  obtain ⟨-, t, ht, rfl⟩ := checksIn_iff.mp h
  exact lt_of_stored? ht

theorem countIn_of_next {p : Passage Relay δ} {subject : Subject} {keyPrefix : String}
    {closesAt newEnd : Instant} (h : p.checksIn subject keyPrefix closesAt)
    (hstored : p.after.stored? (subject.storeKey keyPrefix) =
      some (Tally.next (p.before.stored? (subject.storeKey keyPrefix)) newEnd)) :
    Tally.countIn (p.after.stored? (subject.storeKey keyPrefix)) closesAt =
      Tally.countIn (p.before.stored? (subject.storeKey keyPrefix)) closesAt + 1 := by
  obtain ⟨-, t, ht, hend⟩ := checksIn_iff.mp h
  obtain rfl : _ = t := Option.some.inj (hstored.symm.trans ht)
  rw [hstored]
  exact Tally.countIn_next hend

theorem admittedByStore_iff {p : Passage σ δ} :
    p.admittedByStore ↔ ∃ d, p.answer = some (.ok d) ∧ d.allowed = true ∧ d.source = .store := by
  unfold admittedByStore
  split
  · rename_i d hd
    rw [Bool.and_eq_true, decide_eq_true_eq, hd]
    exact ⟨fun h => ⟨d, rfl, h⟩, fun ⟨_, rfl, h⟩ => h⟩
  · rename_i hne
    exact ⟨fun h => (Bool.false_ne_true h).elim, fun ⟨d, hd, _⟩ => (hne d hd).elim⟩

end Passage

/-- The checks of a subject in the window of its key that ends at `closesAt`, in order. -/
def checksInWindow (subject : Subject) (keyPrefix : String) (closesAt : Instant)
    (ps : List (Passage Relay δ)) : List (Passage Relay δ) :=
  ps.filter (·.checksIn subject keyPrefix closesAt)

theorem checksInWindow_cons_of_pos {subject : Subject} {keyPrefix : String} {closesAt : Instant}
    {p : Passage Relay δ} (h : p.checksIn subject keyPrefix closesAt)
    (ps : List (Passage Relay δ)) :
    checksInWindow subject keyPrefix closesAt (p :: ps) =
      p :: checksInWindow subject keyPrefix closesAt ps :=
  List.filter_cons_of_pos h

theorem checksInWindow_cons_of_neg {subject : Subject} {keyPrefix : String} {closesAt : Instant}
    {p : Passage Relay δ} (h : ¬ p.checksIn subject keyPrefix closesAt)
    (ps : List (Passage Relay δ)) :
    checksInWindow subject keyPrefix closesAt (p :: ps) =
      checksInWindow subject keyPrefix closesAt ps :=
  List.filter_cons_of_neg h

variable {members : Nat → Member} {keyPrefix name : String} {subject : Subject} {limit : Nat}
  {closesAt : Instant}

theorem eq_check_of_checks {s : Step δ} (hs : s.checks subject.text)
    (hsame : s.OnCheck fun _ raw used _ => raw = subject.text → used = limit) :
    ∃ i fares, s = .check i subject.text limit fares := by
  obtain ⟨i, used, fares, rfl⟩ := Step.exists_of_checks hs
  obtain rfl : used = limit := hsame rfl
  exact ⟨i, fares, rfl⟩

variable (hshared : ∀ i, (members i).limiter.keyPrefix = keyPrefix)
  (hwindow : ∀ i, (members i).limiter.window ≠ .zero) (hlimit : 0 < limit)

include hshared hwindow

/-- Until a window closes, no step takes from its count. -/
theorem countIn_le_step (name : String) (subject : Subject) {f : Fleet Relay} {s : Step Delivery}
    (hforward : f.now ≤ s.clock f.now)
    (hopen : (f.step members (Relay.service name) s).state.now < closesAt) :
    Tally.countIn (f.stored? (subject.storeKey keyPrefix)) closesAt ≤
      Tally.countIn ((f.step members (Relay.service name) s).state.stored?
        (subject.storeKey keyPrefix)) closesAt := by
  cases hs : s.checks subject.text with
  | false =>
    rw [now_step] at hopen
    refine Nat.le_of_eq (Eq.symm ?_)
    rw [stored?_step hshared name f hs hforward, Tally.countIn_open? _ hopen]
  | true =>
    obtain ⟨i, used, fares, rfl⟩ := Step.exists_of_checks hs
    rcases stored?_check hshared name i subject used fares (hwindow i)
      with hstored | ⟨newEnd, -, hstored⟩
    · exact Nat.le_of_eq (congrArg (Tally.countIn · closesAt) hstored.symm)
    · exact Nat.le_trans (Tally.countIn_le_next _ newEnd closesAt)
        (Nat.le_of_eq (congrArg (Tally.countIn · closesAt) hstored.symm))

/-- The induction for the bounds: within one window there are at most as many checks of a kind as a
bound says, if each of them raises the count of the window and the count stays within the bound.
`seen` stands for those made so far, which the count bounds as long as the window is open. -/
theorem add_countP_checksInWindow_le {steps : List (Step Delivery)} {f : Fleet Relay}
    {counts : Passage Relay Delivery → Bool} {bound : Nat} (seen : Nat)
    (hforward : Forward f.now steps)
    (hraises : ∀ p ∈ f.passages members (Relay.service name) steps,
      p.checksIn subject keyPrefix closesAt → counts p →
      let key := subject.storeKey keyPrefix
      Tally.countIn (p.after.stored? key) closesAt =
          Tally.countIn (p.before.stored? key) closesAt + 1 ∧
        Tally.countIn (p.after.stored? key) closesAt ≤ bound)
    (hle : seen ≤ bound)
    (hcount : f.now < closesAt →
      seen ≤ Tally.countIn (f.stored? (subject.storeKey keyPrefix)) closesAt) :
    seen + (checksInWindow subject keyPrefix closesAt
      (f.passages members (Relay.service name) steps)).countP counts ≤ bound := by
  induction steps generalizing f seen with
  | nil => exact hle
  | cons s rest ih =>
    rw [passages, List.forall_mem_cons] at hraises
    have hrest : Forward (f.passage members (Relay.service name) s).after.now rest :=
      along_after members (Relay.service name) hforward
    have hopens (hopen : (f.passage members (Relay.service name) s).after.now < closesAt) :
        f.now < closesAt :=
      Nat.lt_of_le_of_lt (now_le_step members (Relay.service name) hforward.1) hopen
    have hkept (hopen : (f.passage members (Relay.service name) s).after.now < closesAt) :
        seen ≤ Tally.countIn ((f.passage members (Relay.service name) s).after.stored?
          (subject.storeKey keyPrefix)) closesAt :=
      Nat.le_trans (hcount (hopens hopen))
        (countIn_le_step hshared hwindow name subject hforward.1 hopen)
    rw [passages]
    by_cases hin : (f.passage members (Relay.service name) s).checksIn subject keyPrefix closesAt
    · rw [checksInWindow_cons_of_pos hin, List.countP_cons]
      by_cases hcounts : counts (f.passage members (Relay.service name) s)
      · obtain ⟨hraised, hbound⟩ := hraises.1 hin hcounts
        have hbefore : seen ≤ Tally.countIn (f.stored? (subject.storeKey keyPrefix)) closesAt :=
          hcount (hopens (Passage.lt_of_checksIn hin))
        have hseen : seen + 1 ≤ Tally.countIn ((f.passage members (Relay.service name)
            s).after.stored? (subject.storeKey keyPrefix)) closesAt := by
          rw [hraised]
          exact Nat.succ_le_succ hbefore
        have hlater := ih (seen + 1) hrest hraises.2 (Nat.le_trans hseen hbound) fun _ => hseen
        rw [if_pos hcounts]
        omega
      · rw [if_neg hcounts]
        exact ih seen hrest hraises.2 hle hkept
    · rw [checksInWindow_cons_of_neg hin]
      exact ih seen hrest hraises.2 hle hkept

include hlimit

/-- A check that the store admits in a window raises the count of the window, within the limit. -/
theorem countIn_of_admitted {f : Fleet Relay} {i : Nat} {fares : Delivery} (hplain : fares.IsPlain)
    (hin : (f.passage members (Relay.service name) (.check i subject.text limit fares)).checksIn
      subject keyPrefix closesAt)
    (hadmitted : (f.passage members (Relay.service name)
      (.check i subject.text limit fares)).admittedByStore) :
    let after := (f.step members (Relay.service name) (.check i subject.text limit fares)).state
    let key := subject.storeKey keyPrefix
    Tally.countIn (after.stored? key) closesAt = Tally.countIn (f.stored? key) closesAt + 1 ∧
      Tally.countIn (after.stored? key) closesAt ≤ limit := by
  obtain ⟨d, hanswer, hallowed, hsource⟩ := Passage.admittedByStore_iff.mp hadmitted
  obtain ⟨newEnd, hstored, rfl⟩ :=
    of_check_source hshared name i subject limit hlimit hplain (hwindow i)
      (Option.some.inj hanswer) hsource
  refine ⟨Passage.countIn_of_next hin hstored, ?_⟩
  obtain ⟨-, t, ht, hend⟩ := Passage.checksIn_iff.mp hin
  obtain rfl : _ = t := Option.some.inj (hstored.symm.trans ht)
  rw [Decision.allowed_ofCount, ← Tally.countIn_some hend] at hallowed
  exact Nat.le_trans (Nat.le_of_eq (congrArg (Tally.countIn · closesAt) hstored)) hallowed

/-- The checks that the store admits in a window raise its count within the limit, so that the limit
bounds them; `admitted` stands for those made so far. -/
theorem admitted_add_le {steps : List (Step Delivery)} {f : Fleet Relay} (admitted : Nat)
    (hforward : Forward f.now steps)
    (hplain : ∀ s ∈ steps, s.OnCheck fun _ _ _ fares => fares.IsPlain)
    (hsame : ∀ s ∈ steps, s.OnCheck fun _ raw used _ => raw = subject.text → used = limit)
    (hle : admitted ≤ limit)
    (hcount : f.now < closesAt →
      admitted ≤ Tally.countIn (f.stored? (subject.storeKey keyPrefix)) closesAt) :
    admitted + (checksInWindow subject keyPrefix closesAt
      (f.passages members (Relay.service name) steps)).countP Passage.admittedByStore ≤ limit := by
  have hrun := forall_passages members (Relay.service name) (I := fun _ => True)
    (fun _ _ _ _ => trivial) (f := f) trivial
    (along_of_forall (fun s hs _ => And.intro (hplain s hs) (hsame s hs)) f.now)
  refine add_countP_checksInWindow_le hshared hwindow admitted hforward
    (fun p hp hin hadmitted => ?_) hle hcount
  obtain ⟨g, s, rfl, -, hs⟩ := hrun p hp
  obtain ⟨i, fares, rfl⟩ := eq_check_of_checks (Passage.checksIn_iff.mp hin).1 hs.2
  exact countIn_of_admitted hshared hwindow hlimit hs.1 hin hadmitted

/-- What the store admits is in a window. -/
theorem inWindow_of_admitted {steps : List (Step Delivery)} {f : Fleet Relay}
    (hplain : ∀ s ∈ steps, s.OnCheck fun _ _ _ fares => fares.IsPlain)
    (hsame : ∀ s ∈ steps, s.OnCheck fun _ raw used _ => raw = subject.text → used = limit) :
    ∀ p ∈ f.passages members (Relay.service name) steps, p.step.checks subject.text →
      p.admittedByStore → ∃ closesAt, p.checksIn subject keyPrefix closesAt := by
  induction steps generalizing f with
  | nil => intro p hp; cases hp
  | cons s rest ih =>
    rw [List.forall_mem_cons] at hplain hsame
    rw [passages, List.forall_mem_cons]
    refine ⟨fun hs hadmitted => ?_, ih hplain.2 hsame.2⟩
    obtain ⟨i, fares, rfl⟩ := eq_check_of_checks hs hsame.1
    obtain ⟨d, hanswer, -, hsource⟩ := Passage.admittedByStore_iff.mp hadmitted
    obtain ⟨newEnd, hstored, -⟩ := of_check_source hshared name i subject limit hlimit hplain.1
      (hwindow i) (Option.some.inj hanswer) hsource
    exact ⟨_, Passage.checksIn_iff.mpr ⟨hs, _, hstored, rfl⟩⟩

/-! ### Runs without a failure -/

theorem trails_after {f : Fleet Relay} {s : Step Delivery}
    (htrails : f.Trails subject.text (subject.storeKey keyPrefix))
    (hforward : f.now ≤ s.clock f.now) (hplain : s.OnCheck fun _ _ _ fares => fares.IsPlain)
    (hsame : s.OnCheck fun _ raw used _ => raw = subject.text → used = limit)
    (hok : ¬ (f.passage members (Relay.service name) s).StoreFailed) :
    (f.passage members (Relay.service name) s).after.Trails subject.text
      (subject.storeKey keyPrefix) := by
  cases hs : s.checks subject.text with
  | false => exact htrails.step hshared hs hforward
  | true =>
    obtain ⟨i, fares, rfl⟩ := eq_check_of_checks hs hsame
    exact (htrails.check hshared hlimit (hwindow i) hplain fun e he => hok ⟨e, he⟩).1

theorem checksIn_of_checks {f : Fleet Relay} {s : Step Delivery}
    (htrails : f.Trails subject.text (subject.storeKey keyPrefix))
    (hs : s.checks subject.text) (hplain : s.OnCheck fun _ _ _ fares => fares.IsPlain)
    (hsame : s.OnCheck fun _ raw used _ => raw = subject.text → used = limit)
    (hok : ¬ (f.passage members (Relay.service name) s).StoreFailed) :
    ∃ closesAt, (f.passage members (Relay.service name) s).checksIn subject keyPrefix closesAt := by
  obtain ⟨i, fares, rfl⟩ := eq_check_of_checks hs hsame
  obtain ⟨-, t, ht, -⟩ :=
    htrails.check hshared hlimit (hwindow i) hplain fun e he => hok ⟨e, he⟩
  exact ⟨t.closesAt, Passage.checksIn_iff.mpr ⟨hs, t, ht, rfl⟩⟩

/-- What a check in a window is told by the count that it meets. The count then includes it, unless
the limit was reached before. -/
theorem told_of_checksIn {f : Fleet Relay} {i : Nat} {fares : Delivery}
    (htrails : f.Trails subject.text (subject.storeKey keyPrefix)) (hplain : fares.IsPlain)
    (hok : ¬ (f.passage members (Relay.service name)
      (.check i subject.text limit fares)).StoreFailed)
    (hin : (f.passage members (Relay.service name) (.check i subject.text limit fares)).checksIn
      subject keyPrefix closesAt) :
    let p := f.passage members (Relay.service name) (.check i subject.text limit fares)
    let count := Tally.countIn (f.stored? (subject.storeKey keyPrefix)) closesAt
    let later := Tally.countIn (p.after.stored? (subject.storeKey keyPrefix)) closesAt
    (later = count + 1 ∨ limit ≤ count ∧ later = count) ∧
      ∃ d, p.answer = some (.ok d) ∧ (d.allowed = true ↔ count < limit) ∧
        d.remaining = limit - (count + 1) := by
  obtain ⟨-, t, ht, hdone⟩ :=
    htrails.check hshared hlimit (hwindow i) hplain fun e he => hok ⟨e, he⟩
  obtain ⟨-, u, hu, rfl⟩ := Passage.checksIn_iff.mp hin
  obtain rfl : t = u := Option.some.inj (ht.symm.trans hu)
  have hlater := congrArg (Tally.countIn · t.closesAt) hu
  simp only [Tally.countIn_some rfl] at hlater
  rcases hdone with ⟨hsame, hfull, hanswer⟩ | ⟨newEnd, -, htally, hanswer⟩
  · have hcount : Tally.countIn (f.stored? (subject.storeKey keyPrefix)) t.closesAt = t.count := by
      rw [hsame, Tally.countIn_some rfl]
    refine ⟨.inr ⟨by rw [hcount]; exact hfull, hlater.trans hcount.symm⟩, _,
      congrArg some hanswer, ?_, ?_⟩
    · rw [hcount]
      exact iff_of_false Bool.false_ne_true (Nat.not_lt.mpr hfull)
    · rw [hcount]
      exact (Nat.sub_eq_zero_of_le (Nat.le_succ_of_le hfull)).symm
  · have hcount := Tally.countIn_next (o := f.stored? (subject.storeKey keyPrefix))
      (congrArg Tally.closesAt htally).symm
    rw [← htally, Tally.countIn_some rfl] at hcount
    refine ⟨.inl (hlater.trans hcount), _, congrArg some hanswer, ?_, ?_⟩
    · rw [Decision.allowed_ofCount, hcount]
      exact Nat.succ_le_iff
    · rw [← hcount]
      rfl

/-- A step that is not a check in the window leaves its count alone until it closes. -/
theorem countIn_of_not_checksIn {f : Fleet Relay} {s : Step Delivery}
    (htrails : f.Trails subject.text (subject.storeKey keyPrefix))
    (hforward : f.now ≤ s.clock f.now) (hplain : s.OnCheck fun _ _ _ fares => fares.IsPlain)
    (hsame : s.OnCheck fun _ raw used _ => raw = subject.text → used = limit)
    (hok : ¬ (f.passage members (Relay.service name) s).StoreFailed)
    (hin : ¬ (f.passage members (Relay.service name) s).checksIn subject keyPrefix closesAt)
    (hopen : (f.passage members (Relay.service name) s).after.now < closesAt) :
    Tally.countIn ((f.passage members (Relay.service name) s).after.stored?
        (subject.storeKey keyPrefix)) closesAt =
      Tally.countIn (f.stored? (subject.storeKey keyPrefix)) closesAt := by
  cases hs : s.checks subject.text with
  | false =>
    refine (congrArg (Tally.countIn · closesAt)
      (stored?_step hshared name f hs hforward)).trans (Tally.countIn_open? _ ?_)
    rw [← now_step members (Relay.service name) f s]
    exact hopen
  | true =>
    -- the check is in another window, so that nothing is counted in this one
    have hle := countIn_le_step hshared hwindow name subject hforward hopen
    obtain ⟨otherEnd, hother⟩ :=
      checksIn_of_checks hshared hwindow hlimit htrails hs hplain hsame hok
    obtain ⟨-, t, ht, hend⟩ := Passage.checksIn_iff.mp hother
    have hzero : Tally.countIn ((f.passage members (Relay.service name) s).after.stored?
        (subject.storeKey keyPrefix)) closesAt = 0 := by
      refine Tally.countIn_of_ne fun hmap => hin (Passage.checksIn_iff.mpr ⟨hs, t, ht, ?_⟩)
      rw [ht] at hmap
      exact Option.some.inj hmap
    exact hzero.trans (Nat.eq_zero_of_le_zero (Nat.le_trans hle (Nat.le_of_eq hzero))).symm

/-- Every check of the subject is in a window. -/
theorem inWindow_of_checks {steps : List (Step Delivery)} {f : Fleet Relay}
    (hforward : Forward f.now steps)
    (hplain : ∀ s ∈ steps, s.OnCheck fun _ _ _ fares => fares.IsPlain)
    (hsame : ∀ s ∈ steps, s.OnCheck fun _ raw used _ => raw = subject.text → used = limit)
    (hok : ∀ p ∈ f.passages members (Relay.service name) steps, ¬ p.StoreFailed)
    (htrails : f.Trails subject.text (subject.storeKey keyPrefix)) :
    ∀ p ∈ f.passages members (Relay.service name) steps, p.step.checks subject.text →
      ∃ closesAt, p.checksIn subject keyPrefix closesAt := by
  induction steps generalizing f with
  | nil => intro p hp; cases hp
  | cons s rest ih =>
    rw [List.forall_mem_cons] at hplain hsame
    rw [passages, List.forall_mem_cons] at hok ⊢
    exact ⟨fun hs => checksIn_of_checks hshared hwindow hlimit htrails hs hplain.1 hsame.1 hok.1,
      ih (along_after members (Relay.service name) hforward) hplain.2 hsame.2 hok.2
        (trails_after hshared hwindow hlimit htrails hforward.1 hplain.1 hsame.1 hok.1)⟩

/-- The induction for the exact count: `seen` stands for the number of checks made in the window so
far, which its count equals up to the limit as long as the window is open. -/
theorem told_of_checksInWindow {steps : List (Step Delivery)} {f : Fleet Relay} (seen : Nat)
    (hforward : Forward f.now steps)
    (hplain : ∀ s ∈ steps, s.OnCheck fun _ _ _ fares => fares.IsPlain)
    (hsame : ∀ s ∈ steps, s.OnCheck fun _ raw used _ => raw = subject.text → used = limit)
    (hok : ∀ p ∈ f.passages members (Relay.service name) steps, ¬ p.StoreFailed)
    (htrails : f.Trails subject.text (subject.storeKey keyPrefix))
    (hseen : f.now < closesAt →
      let count := Tally.countIn (f.stored? (subject.storeKey keyPrefix)) closesAt
      count = seen ∨ limit ≤ count ∧ count ≤ seen)
    {k : Nat} {p : Passage Relay Delivery}
    (hp : (checksInWindow subject keyPrefix closesAt
      (f.passages members (Relay.service name) steps))[k]? = some p) :
    ∃ d, p.answer = some (.ok d) ∧ (d.allowed = true ↔ seen + k < limit) ∧
      d.remaining = limit - (seen + k + 1) := by
  induction steps generalizing f seen k with
  | nil => cases hp
  | cons s rest ih =>
    rw [List.forall_mem_cons] at hplain hsame
    rw [passages, List.forall_mem_cons] at hok
    have hrest : Forward (f.passage members (Relay.service name) s).after.now rest :=
      along_after members (Relay.service name) hforward
    have hlater := trails_after hshared hwindow hlimit htrails hforward.1 hplain.1 hsame.1 hok.1
    have hopens (hopen : (f.passage members (Relay.service name) s).after.now < closesAt) :
        f.now < closesAt :=
      Nat.lt_of_le_of_lt (now_le_step members (Relay.service name) hforward.1) hopen
    rw [passages] at hp
    by_cases hin : (f.passage members (Relay.service name) s).checksIn subject keyPrefix closesAt
    · obtain ⟨i, fares, rfl⟩ := eq_check_of_checks (Passage.checksIn_iff.mp hin).1 hsame.1
      obtain ⟨hraised, d, hanswer, hallowed, hremaining⟩ :=
        told_of_checksIn hshared hwindow hlimit htrails hplain.1 hok.1 hin
      have hbefore := hseen (hopens (Passage.lt_of_checksIn hin))
      rw [checksInWindow_cons_of_pos hin] at hp
      cases k with
      | zero =>
        cases hp
        refine ⟨d, hanswer, hallowed.trans ?_, hremaining.trans ?_⟩ <;> omega
      | succ k =>
        obtain ⟨d', hanswer', hallowed', hremaining'⟩ :=
          ih (seen + 1) hrest hplain.2 hsame.2 hok.2 hlater (fun _ => by omega) hp
        refine ⟨d', hanswer', hallowed'.trans ?_, hremaining'.trans ?_⟩ <;> omega
    · rw [checksInWindow_cons_of_neg hin] at hp
      refine ih seen hrest hplain.2 hsame.2 hok.2 hlater (fun hopen => ?_) hp
      rw [countIn_of_not_checksIn hshared hwindow hlimit htrails hforward.1 hplain.1 hsame.1 hok.1
        hin hopen]
      exact hseen (hopens hopen)

omit hshared hwindow hlimit

/-- Limiters that share a store and a key prefix share the limit of a subject. In each window of the
subject the store admits at most as many checks as the limit says, and it admits none outside of a
window. If no call to the store fails, every check is in a window, and the checks in a window are
told the limit counted down: the first ones are allowed, as many as the limit says, and each is told
what remains after it. -/
theorem admissions_in_window (members : Nat → Member) (keyPrefix name : String)
    (hshared : ∀ i, (members i).limiter.keyPrefix = keyPrefix)
    (hwindow : ∀ i, (members i).limiter.window ≠ .zero)
    (start : Instant) (steps : List (Step Delivery)) (hforward : Forward start steps)
    (hplain : ∀ s ∈ steps, s.OnCheck fun _ _ _ fares => fares.IsPlain)
    (subject : Subject) (limit : Nat) (hlimit : 0 < limit)
    (hsame : ∀ s ∈ steps, s.OnCheck fun _ raw used _ => raw = subject.text → used = limit) :
    let ps := (fresh start).passages members (Relay.service name) steps
    (∀ p ∈ ps, p.step.checks subject.text → p.admittedByStore →
        ∃ closesAt, p.checksIn subject keyPrefix closesAt) ∧
      (∀ closesAt, (checksInWindow subject keyPrefix closesAt ps).countP Passage.admittedByStore ≤
        limit) ∧
      ((∀ p ∈ ps, ¬ p.StoreFailed) →
        (∀ p ∈ ps, p.step.checks subject.text →
          ∃ closesAt, p.checksIn subject keyPrefix closesAt) ∧
        ∀ closesAt k p, (checksInWindow subject keyPrefix closesAt ps)[k]? = some p →
          ∃ d, p.answer = some (.ok d) ∧ (d.allowed = true ↔ k < limit) ∧
            d.remaining = limit - (k + 1)) := by
  have htrails := trails_fresh start subject.text (subject.storeKey keyPrefix)
  refine ⟨inWindow_of_admitted hshared hwindow hlimit hplain hsame, fun closesAt => ?_,
    fun hok => ⟨inWindow_of_checks hshared hwindow hlimit hforward hplain hsame hok htrails,
      fun closesAt k p hp => ?_⟩⟩
  · rw [← Nat.zero_add (List.countP _ _)]
    exact admitted_add_le hshared hwindow hlimit 0 hforward hplain hsame (Nat.zero_le _)
      fun _ => Nat.zero_le _
  · have h := told_of_checksInWindow hshared hwindow hlimit 0 hforward hplain hsame hok
      htrails (fun _ => .inl rfl) hp
    rwa [Nat.zero_add] at h

/-- Two limiters with caches of their own: the third check is denied from a cache, and the next
window starts over. -/
theorem admissions_in_window_of_pair :
    let members (i : Nat) : Member := ⟨{ window := .ofSecs 1 }, i⟩
    let steps : List (Step Delivery) :=
      [.check 0 "a" 2 .sound, .check 1 "a" 2 .sound, .check 1 "a" 2 .sound,
        .set ⟨nanosPerSec⟩, .check 0 "a" 2 .sound]
    let ps := (fresh .zero).passages members (Relay.service "memory") steps
    let inFirst := checksInWindow ⟨"a", by decide⟩ defaultKeyPrefix ⟨nanosPerSec⟩ ps
    inFirst.length = 3 ∧ inFirst.countP Passage.admittedByStore ≤ 2 ∧
      ∀ k p, inFirst[k]? = some p → ∃ d, p.answer = some (.ok d) ∧
        (d.allowed = true ↔ k < 2) ∧ d.remaining = 2 - (k + 1) := by
  intro members steps ps inFirst
  obtain ⟨-, hcap, hexact⟩ := admissions_in_window members defaultKeyPrefix "memory"
    (fun _ => rfl) (fun _ => show Span.ofSecs 1 ≠ .zero by decide) .zero steps
    (by decide +zetaReduce) (by decide +zetaReduce) ⟨"a", by decide⟩ 2 (by decide)
    (by decide +zetaReduce)
  exact ⟨by decide +kernel +zetaReduce, hcap _, (hexact (by decide +kernel +zetaReduce)).2 _⟩

end FixedWindow.Fleet
