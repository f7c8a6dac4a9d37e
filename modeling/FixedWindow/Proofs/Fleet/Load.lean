import FixedWindow.Proofs.Fleet.GlobalCap

/-!
# The load on the store

A full local tally spares the store. Among limiters that share an in-memory store and a key prefix,
each with what its own cache has last seen of a subject, the store is asked until every one of them
has seen the limit reached. Once the store's count has reached the limit, each further call shows
this to the limiter that makes it, whose cache then denies until the window closes. So within one
window the store's count stays below the limit and the number of caches that show the window as
full together, and for `n` limiters at most `limit + n - 1` checks reach the store.

## Main definitions

* `Fleet.showsFull`, `Fleet.fullSights`: whether a limiter is shown a window as full, and how many
  are.
* `Fleet.Spares`: in each window the store has counted less than the limit and these together.

## Main results

* `Fleet.Spares.step`: every step keeps this.
* `Fleet.calls_in_window`: a bound on the calls that the store receives in a window.
-/

namespace FixedWindow

/-- A test that is passed by all that pass another one, and by one more, is passed more often. -/
theorem countP_lt_of_imp {α : Type} {p q : α → Bool} {l : List α} {a : α}
    (himp : ∀ b, p b = true → q b = true) (ha : a ∈ l) (hp : ¬ p a = true) (hq : q a = true) :
    l.countP p < l.countP q := by
  induction l with
  | nil => cases ha
  | cons b rest ih =>
    rw [List.countP_cons, List.countP_cons]
    rcases List.mem_cons.mp ha with rfl | hrest
    · have hle : rest.countP p ≤ rest.countP q := List.countP_mono_left fun b _ => himp b
      rw [if_neg hp, if_pos hq]
      omega
    · have hlt := ih hrest
      by_cases hb : p b = true
      · rw [if_pos hb, if_pos (himp b hb)]
        omega
      · rw [if_neg hb]
        omega

namespace Tally

theorem countIn_lt_of_room {o : Option Tally} {limit : Nat} (hlimit : 0 < limit)
    (hroom : ∀ t, o = some t → t.count < limit) (closesAt : Instant) :
    countIn o closesAt < limit := by
  cases o with
  | none => exact hlimit
  | some t =>
    by_cases ht : t.closesAt = closesAt
    · rw [countIn_some ht]
      exact hroom t rfl
    · rw [countIn_some_of_ne ht]
      exact hlimit

end Tally

namespace Fleet

open Store (Relay Delivery)

/-- Whether the cache of the limiter numbered `i` shows the window of a subject that ends at
`closesAt`, with the limit reached. -/
def showsFull {σ : Type} (members : Nat → Member) (f : Fleet σ) (subject : String) (limit : Nat)
    (closesAt : Instant) (i : Nat) : Bool :=
  limit ≤ Tally.countIn (f.cached? (members i).cache subject) closesAt

/-- How many of the first `n` limiters are shown the window as full. -/
def fullSights {σ : Type} (members : Nat → Member) (f : Fleet σ) (n : Nat) (subject : String)
    (limit : Nat) (closesAt : Instant) : Nat :=
  (List.range n).countP (f.showsFull members subject limit closesAt)

theorem fullSights_le {σ : Type} (members : Nat → Member) (f : Fleet σ) (n : Nat)
    (subject : String) (limit : Nat) (closesAt : Instant) :
    f.fullSights members n subject limit closesAt ≤ n :=
  Nat.le_trans List.countP_le_length (Nat.le_of_eq List.length_range)

/-- The caches trail the store on a subject, and in each window of the subject the store has counted
less than the limit and the number of limiters that are shown the window as full together. -/
structure Spares (members : Nat → Member) (f : Fleet Relay) (n : Nat) (subject : Subject)
    (keyPrefix : String) (limit : Nat) : Prop where
  trails : f.Trails subject.text (subject.storeKey keyPrefix)
  counted : ∀ closesAt, Tally.countIn (f.stored? (subject.storeKey keyPrefix)) closesAt <
    limit + f.fullSights members n subject.text limit closesAt

variable {members : Nat → Member} {keyPrefix : String} {n : Nat} {subject : Subject} {limit : Nat}

theorem spares_fresh (now : Instant) (hlimit : 0 < limit) :
    (fresh now).Spares members n subject keyPrefix limit where
  trails := trails_fresh now subject.text (subject.storeKey keyPrefix)
  counted _ := Nat.lt_add_right _ hlimit

namespace Spares

variable {f : Fleet Relay} (h : f.Spares members n subject keyPrefix limit)

include h

theorem countIn_le (closesAt : Instant) :
    Tally.countIn (f.stored? (subject.storeKey keyPrefix)) closesAt ≤ limit + n - 1 := by
  have hcounted := h.counted closesAt
  have hsights := f.fullSights_le members n subject.text limit closesAt
  omega

variable (hshared : ∀ i, (members i).limiter.keyPrefix = keyPrefix) (name : String)

include hshared

/-- Time and the checks of other subjects close windows and do nothing else. -/
theorem counted_step {s : Step Delivery} (hs : s.checks subject.text = false)
    (hforward : f.now ≤ s.clock f.now) (hlimit : 0 < limit) (closesAt : Instant) :
    let g := (f.step members (Relay.service name) s).state
    Tally.countIn (g.stored? (subject.storeKey keyPrefix)) closesAt <
      limit + g.fullSights members n subject.text limit closesAt := by
  intro g
  rw [stored?_step hshared name f hs hforward]
  by_cases hopen : s.clock f.now < closesAt
  · have hsights : g.fullSights members n subject.text limit closesAt =
        f.fullSights members n subject.text limit closesAt := by
      unfold fullSights showsFull
      simp only [g, cached?_step members _ f _ hs hforward, Tally.countIn_open? _ hopen]
    rw [Tally.countIn_open? _ hopen, hsights]
    exact h.counted closesAt
  · rw [Tally.countIn_open?_of_le _ (Nat.not_lt.mp hopen)]
    exact Nat.lt_add_right _ hlimit

variable {i : Nat} (hwindow : (members i).limiter.window ≠ .zero) {newEnd : Instant}
  (hend : f.now.add? (members i).limiter.window = some newEnd) (hlimit : 0 < limit)
  (hroom : ∀ t, f.cached? (members i).cache subject.text = some t → t.count < limit)

include hwindow hend hlimit hroom

/-- A call that brings the count of a window to the limit or beyond shows the window as full to the
limiter that makes it, and to no fewer of the others. -/
theorem fullSights_ask (hi : i < n) {closesAt : Instant}
    (hin : (Tally.next (f.stored? (subject.storeKey keyPrefix)) newEnd).closesAt = closesAt)
    (hfull : limit ≤ Tally.countIn (f.stored? (subject.storeKey keyPrefix)) closesAt + 1) :
    f.fullSights members n subject.text limit closesAt <
      (f.ask members ((Relay.service name).backend .sound) i subject limit).state.fullSights members
        n subject.text limit closesAt := by
  obtain ⟨hadopts, -⟩ := ask_sound hshared name i subject limit hwindow hend h.trails.within
  have hnot {k : Nat} (hk : (members k).cache = (members i).cache) :
      ¬ f.showsFull members subject.text limit closesAt k = true := by
    have hless := Tally.countIn_lt_of_room hlimit hroom closesAt
    rw [showsFull, hk, decide_eq_true_eq]
    omega
  refine countP_lt_of_imp (fun k hk => ?_) (List.mem_range.mpr hi) (hnot rfl) ?_
  · -- a limiter on another cache is shown what it was shown before
    have hne : ¬ ((members k).cache = (members i).cache ∧ subject.text = subject.text) :=
      fun hsame => hnot hsame.1 hk
    rwa [showsFull, hadopts.cached, if_neg hne]
  · rw [showsFull, hadopts.cached, if_pos ⟨rfl, rfl⟩, decide_eq_true_eq, Tally.countIn_next hin]
    exact hfull

/-- A call that is counted stays below the limit, or shows the window as full to one more. -/
theorem counted_ask (hi : i < n) (closesAt : Instant) :
    let g := (f.ask members ((Relay.service name).backend .sound) i subject limit).state
    Tally.countIn (g.stored? (subject.storeKey keyPrefix)) closesAt <
      limit + g.fullSights members n subject.text limit closesAt := by
  intro g
  obtain ⟨-, hstored⟩ := ask_sound hshared name i subject limit hwindow hend h.trails.within
  rw [hstored]
  by_cases hin : (Tally.next (f.stored? (subject.storeKey keyPrefix)) newEnd).closesAt = closesAt
  · rw [Tally.countIn_next hin]
    by_cases hfull : limit ≤ Tally.countIn (f.stored? (subject.storeKey keyPrefix)) closesAt + 1
    · have hcounted := h.counted closesAt
      have hmore : f.fullSights members n subject.text limit closesAt <
          g.fullSights members n subject.text limit closesAt :=
        h.fullSights_ask hshared name hwindow hend hlimit hroom hi hin hfull
      omega
    · omega
  · rw [Tally.countIn_some_of_ne hin]
    exact Nat.lt_add_right _ hlimit

end Spares

section Run

variable (hshared : ∀ i, (members i).limiter.keyPrefix = keyPrefix)
  (hwindow : ∀ i, (members i).limiter.window ≠ .zero) (hlimit : 0 < limit) (name : String)
  {f : Fleet Relay} {s : Step Delivery}
  (hreach : s.OnCheck fun i _ _ _ => (f.now.add? (members i).limiter.window).isSome = true)
  (hsound : s.OnCheck fun i raw used fares =>
    i < n ∧ fares = .sound ∧ (raw = subject.text → used = limit))

include hreach hsound in
theorem not_storeFailed_of_reach : ¬ (f.passage members (Relay.service name) s).StoreFailed := by
  cases s with
  | check i raw used fares =>
    obtain rfl := hsound.2.1
    exact not_storeFailed_of_sound name i used raw hreach
  | set _ | sweepCache _ | sweepStore =>
    rintro ⟨e, he⟩
    cases he

variable (hforward : f.now ≤ s.clock f.now) (h : f.Spares members n subject keyPrefix limit)

include hshared hwindow hlimit hreach hsound hforward h

/-- Every step keeps the store spared. -/
theorem Spares.step :
    (f.step members (Relay.service name) s).state.Spares members n subject keyPrefix limit where
  trails := trails_after hshared hwindow hlimit h.trails hforward
    (hsound.imp fun _ _ _ _ hs => hs.2.1 ▸ trivial) (hsound.imp fun _ _ _ _ hs => hs.2.2)
    (not_storeFailed_of_reach name hreach hsound)
  counted closesAt := by
    cases hs : s.checks subject.text with
    | false => exact h.counted_step hshared name hs hforward hlimit closesAt
    | true =>
      obtain ⟨i, fares, rfl⟩ := eq_check_of_checks hs (hsound.imp fun _ _ _ _ hs => hs.2.2)
      obtain ⟨hi, rfl, -⟩ := hsound
      rcases f.full_or_room (members i).cache subject.text limit with ⟨t, ht, hfull⟩ | hroom
      · rw [Fleet.step, check_of_full members i hlimit _ ht hfull]
        exact h.counted closesAt
      · obtain ⟨newEnd, hend⟩ := Option.isSome_iff_exists.mp hreach
        rw [Fleet.step, check_of_room members i hlimit hroom]
        exact h.counted_ask hshared name (hwindow i) hend hlimit hroom hi closesAt

omit hforward in
/-- A check in a window that reaches the store raises the count of the window. -/
theorem countIn_of_reply {closesAt : Instant}
    (hin : (f.passage members (Relay.service name) s).checksIn subject keyPrefix closesAt)
    (hasked : (f.passage members (Relay.service name) s).reply.isSome = true) :
    Tally.countIn ((f.passage members (Relay.service name) s).after.stored?
        (subject.storeKey keyPrefix)) closesAt =
      Tally.countIn (f.stored? (subject.storeKey keyPrefix)) closesAt + 1 := by
  obtain ⟨hs, -⟩ := Passage.checksIn_iff.mp hin
  obtain ⟨i, fares, rfl⟩ := eq_check_of_checks hs (hsound.imp fun _ _ _ _ hs => hs.2.2)
  obtain ⟨-, rfl, -⟩ := hsound
  rcases f.full_or_room (members i).cache subject.text limit with ⟨u, hu, hfull⟩ | hroom
  · have hnone := reply?_of_full members i hlimit hu hfull (Relay.service name) Delivery.sound
    rw [passage, hnone] at hasked
    cases hasked
  · obtain ⟨newEnd, hend⟩ := Option.isSome_iff_exists.mp hreach
    have hstored := (ask_sound hshared name i subject limit (hwindow i) hend h.trails.within).2
    rw [← check_of_room members i hlimit hroom] at hstored
    exact Passage.countIn_of_next hin hstored

end Run

/-- Limiters that share a store and a key prefix ask the store only until each of them has seen the
limit of a subject reached. If no call to the store fails, at most `limit + n - 1` checks of the
subject through `n` limiters reach the store in one window, which is also the most that it counts
there; and every check of the subject is in a window. -/
theorem calls_in_window (members : Nat → Member) (keyPrefix name : String)
    (hshared : ∀ i, (members i).limiter.keyPrefix = keyPrefix)
    (hwindow : ∀ i, (members i).limiter.window ≠ .zero) (n : Nat)
    (start : Instant) (steps : List (Step Delivery)) (hforward : Forward start steps)
    (hreach : InReach members start steps) (subject : Subject) (limit : Nat) (hlimit : 0 < limit)
    (hsound : ∀ s ∈ steps, s.OnCheck fun i raw used fares =>
      i < n ∧ fares = .sound ∧ (raw = subject.text → used = limit)) :
    let ps := (fresh start).passages members (Relay.service name) steps
    (∀ closesAt, (checksInWindow subject keyPrefix closesAt ps).countP (·.reply.isSome) ≤
        limit + n - 1) ∧
      (∀ p ∈ ps, ∀ t, p.after.stored? (subject.storeKey keyPrefix) = some t →
        t.count ≤ limit + n - 1) ∧
      ∀ p ∈ ps, p.step.checks subject.text →
        ∃ closesAt, p.checksIn subject keyPrefix closesAt := by
  intro ps
  have hrun := forall_passages members (Relay.service name) (f := fresh start)
    (I := fun g => g.Spares members n subject keyPrefix limit)
    (fun g s hg hs => hg.step hshared hwindow hlimit name hs.1.2 hs.2 hs.1.1)
    (spares_fresh start hlimit)
    ((hforward.and hreach).and (along_of_forall (fun s hs _ => hsound s hs) start))
  refine ⟨fun closesAt => ?_, fun p hp t ht => ?_, fun p hp hs => ?_⟩
  · rw [← Nat.zero_add (List.countP _ _)]
    refine add_countP_checksInWindow_le hshared hwindow 0 hforward (fun p hp hin hasked => ?_)
      (Nat.zero_le _) fun _ => Nat.zero_le _
    obtain ⟨g, s, rfl, hg, hs⟩ := hrun p hp
    exact ⟨countIn_of_reply hshared hwindow hlimit name hs.1.2 hs.2 hg hin hasked,
      (hg.step hshared hwindow hlimit name hs.1.2 hs.2 hs.1.1).countIn_le closesAt⟩
  · obtain ⟨g, s, rfl, hg, hs⟩ := hrun p hp
    have hcount := (hg.step hshared hwindow hlimit name hs.1.2 hs.2 hs.1.1).countIn_le t.closesAt
    rw [← Tally.countIn_some (t := t) rfl, ← ht]
    exact hcount
  · obtain ⟨g, s, rfl, hg, ⟨-, hs'⟩, hsound'⟩ := hrun p hp
    exact checksIn_of_checks hshared hwindow hlimit hg.trails hs
      (hsound'.imp fun _ _ _ _ h => h.2.1 ▸ trivial) (hsound'.imp fun _ _ _ _ h => h.2.2)
      (not_storeFailed_of_reach name hs' hsound')

/-- Three limiters with windows and caches of their own and a limit of two. Of seven checks in the
first window four reach the store, the most that can: the first limiter asks while it knows of one
call, and the third while it knows of none. -/
theorem calls_in_window_of_three :
    let members (i : Nat) : Member := ⟨{ window := ⟨10 + i⟩ }, i⟩
    let steps : List (Step Delivery) :=
      [.check 0 "a" 2 .sound, .check 1 "a" 2 .sound, .check 0 "b" 7 .sound, .check 0 "a" 2 .sound,
        .set ⟨9⟩, .sweepStore, .check 2 "a" 2 .sound, .sweepCache 1, .check 0 "a" 2 .sound,
        .check 1 "a" 2 .sound, .check 2 "a" 2 .sound, .set ⟨10⟩, .check 1 "a" 2 .sound]
    let ps := (fresh .zero).passages members (Relay.service "memory") steps
    let inFirst := checksInWindow ⟨"a", by decide⟩ defaultKeyPrefix ⟨10⟩ ps
    inFirst.length = 7 ∧ inFirst.countP (·.reply.isSome) = 2 + 3 - 1 ∧
      (∀ closesAt, (checksInWindow ⟨"a", by decide⟩ defaultKeyPrefix closesAt ps).countP
        (·.reply.isSome) ≤ 2 + 3 - 1) ∧
      ∀ p ∈ ps, ∀ t, p.after.stored? "rate_limit:a" = some t → t.count ≤ 2 + 3 - 1 := by
  intro members steps ps inFirst
  have hwindow (i : Nat) : (members i).limiter.window ≠ .zero := fun h => by
    have hnanos : 10 + i = 0 := congrArg Span.nanos h
    omega
  obtain ⟨hcalls, hcount, -⟩ := calls_in_window members defaultKeyPrefix "memory" (fun _ => rfl)
    hwindow 3 .zero steps (by decide +zetaReduce) (by decide +kernel +zetaReduce)
    ⟨"a", by decide⟩ 2 (by decide) (by decide +zetaReduce)
  exact ⟨by decide +kernel +zetaReduce, by decide +kernel +zetaReduce, hcalls, hcount⟩

end Fleet

end FixedWindow
