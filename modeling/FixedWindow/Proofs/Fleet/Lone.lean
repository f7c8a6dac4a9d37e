import FixedWindow.Proofs.Fleet.Book

/-!
# A lone limiter over a store of its own

As long as every call to the store is applied, the cache and the store of a lone limiter stay
*level*: they have the same window open for each subject, with the same count. An answer that
arrives brings the store's tally to the cache; if it is lost, the cache counts the call in the
window that it shows already, or in one that it opens together with the store. So it makes no
difference which answers are lost, and the limiter decides as the reference counter does.

## Main definitions

* `Fleet.Matches`, `Fleet.Level`: cache and store have the same window open, for a subject or for
  all of them.

## Main results

* `Fleet.Matches.step`, `Fleet.Matches.check`, `Fleet.Level.step`: a run keeps cache and store
  level.
* `Fleet.verdicts_lone`: a lone limiter is the reference counter, whichever answers are lost.
-/

namespace FixedWindow.Fleet

open Store (Relay Delivery)

/-- The store has the same window open under the key as the cache has for the subject, with the
same count; and the window ends within the clock. -/
structure Matches (f : Fleet Relay) (subject key : String) : Prop where
  same : f.stored? key = f.cached? 0 subject
  within : ∀ t, f.cached? 0 subject = some t → t.closesAt ≤ Instant.last

/-- The store has the same window open for each subject as the cache, with the same count; and the
window ends within the clock. -/
structure Level (f : Fleet Relay) (keyPrefix : String) : Prop where
  same : ∀ s : Subject, f.stored? (s.storeKey keyPrefix) = f.cached? 0 s.text
  within : ∀ s : Subject, ∀ t, f.cached? 0 s.text = some t → t.closesAt ≤ Instant.last

theorem level_fresh (now : Instant) (keyPrefix : String) : (fresh now).Level keyPrefix where
  same _ := rfl
  within _ _ h := by cases h

variable {l : Limiter} {name : String} {f : Fleet Relay}

/-! ### One subject -/

namespace Matches

variable {subject : Subject} {limit : Nat} {d : Delivery} {newEnd : Instant}

/-- Time and the checks of other subjects keep the two tiers matching. -/
theorem step (h : f.Matches subject.text (subject.storeKey l.keyPrefix)) (name : String)
    {s : Step Delivery} (hs : s.checks subject.text = false) (hforward : f.now ≤ s.clock f.now) :
    (f.step (lone l) (Relay.service name) s).state.Matches subject.text
      (subject.storeKey l.keyPrefix) where
  same := by
    rw [stored?_step (keyPrefix_lone l) name f hs hforward, h.same,
      cached?_step (lone l) _ f 0 hs hforward]
  within t ht := by
    rw [cached?_step (lone l) _ f 0 hs hforward] at ht
    exact h.within t (Tally.open?_eq_some_iff.mp ht).1

/-- If a call is applied, the local tally with the call in it is adopted, by the word of the store
or after a failure. -/
theorem adopts (h : f.Matches subject.text (subject.storeKey l.keyPrefix)) (name : String)
    (i limit : Nat) (hd : d.Applies) (hwindow : l.window ≠ .zero)
    (hend : f.now.add? l.window = some newEnd)
    (hword : ∀ t, f.cached? 0 subject.text = some t → t.count < maxCount) :
    ∃ source, f.Adopts 0 subject.text limit (Tally.next (f.cached? 0 subject.text) newEnd) source
      (f.ask (lone l) ((Relay.service name).backend d) i subject limit) := by
  cases d with
  | sound =>
    refine ⟨.store, ?_⟩
    rw [← h.same]
    refine (ask_sound (keyPrefix_lone l) name i subject limit hwindow hend fun u hu => ?_).1
    exact h.within u (h.same.symm.trans hu)
  | lostAfter e =>
    exact ⟨.degraded, ask_of_failure (lone l) i limit _
      (Relay.answer_increment_lostAfter f.store e (call (lone l) i subject) hend) hwindow
      (fun _ => hend) hword⟩
  | lostBefore e | closed | forged figures => exact hd.elim

/-- A check whose call is applied, if it makes one, keeps the two tiers matching. -/
theorem check (h : f.Matches subject.text (subject.storeKey l.keyPrefix)) (name : String) (i : Nat)
    (hlimit : 0 < limit) (hword : limit ≤ maxCount) (hwindow : l.window ≠ .zero)
    (hend : f.now.add? l.window = some newEnd)
    (hd : (∀ t, f.cached? 0 subject.text = some t → t.count < limit) → d.Applies) :
    (f.check (lone l) ((Relay.service name).backend d) i subject.text limit).state.Matches
      subject.text (subject.storeKey l.keyPrefix) := by
  rcases f.full_or_room 0 subject.text limit with ⟨t, ht, hfull⟩ | hroom
  · rw [check_of_full (lone l) i hlimit _ ht hfull]
    exact h
  · obtain ⟨source, hadopts⟩ := h.adopts name i limit (hd hroom) hwindow hend
      fun t ht => Nat.lt_of_lt_of_le (hroom t ht) hword
    have hcached := (hadopts.cached 0 subject.text).trans (if_pos ⟨rfl, rfl⟩)
    rw [check_of_room (lone l) i hlimit hroom]
    refine ⟨?_, fun t ht => ?_⟩
    · rw [hcached, ← h.same]
      exact stored?_ask (keyPrefix_lone l) name i subject limit hwindow hend (hd hroom)
    · cases hcached.symm.trans ht
      exact Tally.closesAt_next (P := (· ≤ Instant.last)) h.within
        fun _ => Instant.le_last_of_add? hend

end Matches

/-! ### All subjects -/

namespace Level

theorem matches_subject (h : f.Level l.keyPrefix) (subject : Subject) :
    f.Matches subject.text (subject.storeKey l.keyPrefix) :=
  ⟨h.same subject, h.within subject⟩

theorem counts (h : f.Level l.keyPrefix) (name : String) {s : Step Delivery} (hvalid : s.IsValid)
    (hd : s.OnCheck fun _ _ _ fares => fares.Applies) (hwindow : l.window ≠ .zero) :
    f.Counts l (Relay.service name) s := by
  cases s with
  | check i raw limit fares =>
    rintro subject rfl hroom newEnd hend
    exact (h.matches_subject subject).adopts name i limit hd hwindow hend
      fun t ht => Nat.lt_of_lt_of_le (hroom t ht) hvalid.2.2
  | set _ | sweepCache _ | sweepStore => trivial

/-- A step whose call is applied, if it makes one, keeps cache and store level. -/
theorem step (h : f.Level l.keyPrefix) (name : String) {s : Step Delivery}
    (hwindow : l.window ≠ .zero) (hforward : f.now ≤ s.clock f.now)
    (hreach : s.OnCheck fun _ _ _ _ => (f.now.add? l.window).isSome = true) (hvalid : s.IsValid)
    (hd : s.OnCheck fun _ _ _ fares => fares.Applies) :
    (f.step (lone l) (Relay.service name) s).state.Level l.keyPrefix := by
  have hsubject (subject : Subject) : (f.step (lone l) (Relay.service name) s).state.Matches
      subject.text (subject.storeKey l.keyPrefix) := by
    cases hs : s.checks subject.text with
    | false => exact (h.matches_subject subject).step name hs hforward
    | true =>
      obtain ⟨i, limit, fares, rfl⟩ := Step.exists_of_checks hs
      obtain ⟨newEnd, hend⟩ := Option.isSome_iff_exists.mp hreach
      exact (h.matches_subject subject).check name i hvalid.2.1 hvalid.2.2 hwindow hend
        fun _ => hd
  exact ⟨fun subject => (hsubject subject).same, fun subject => (hsubject subject).within⟩

end Level

/-- A lone limiter decides as the reference counter, as long as every call is applied. -/
theorem verdicts_of_level {steps : List (Step Delivery)} (book : Book)
    (hwindow : l.window ≠ .zero) (hforward : Forward f.now steps)
    (hreach : InReach (lone l) f.now steps) (hvalid : ∀ s ∈ steps, s.IsValid)
    (happlies : ∀ s ∈ steps, s.OnCheck fun _ _ _ fares => fares.Applies)
    (hmirrors : f.Mirrors book) (hlevel : f.Level l.keyPrefix) :
    verdicts (f.run (lone l) (Relay.service name) steps).answer =
      (book.verdicts l.window f.now steps).map (Option.map .ok) := by
  induction steps generalizing f book with
  | nil => rfl
  | cons s rest ih =>
    rw [List.forall_mem_cons] at hvalid happlies
    obtain ⟨hanswer, hmirrors'⟩ := hmirrors.step (Relay.service name) hwindow hforward.1 hreach.1
      hvalid.1 (hlevel.counts name hvalid.1 happlies.1 hwindow)
    have hrest := ih _ (along_after (lone l) (Relay.service name) hforward)
      (along_after (lone l) (Relay.service name) hreach) hvalid.2 happlies.2 hmirrors'
      (hlevel.step name hwindow hforward.1 hreach.1 hvalid.1 happlies.1)
    rw [now_step] at hrest
    exact List.cons_eq_cons.mpr ⟨hanswer, hrest⟩

/-- A lone limiter over a store of its own is the reference counter, as long as every call to the
store is applied; and it makes no difference to its decisions, apart from their source, which
answers of the store are lost. -/
theorem verdicts_lone (l : Limiter) (name : String) (hwindow : l.window ≠ .zero)
    (start : Instant) (steps : List (Step Delivery)) (hforward : Forward start steps)
    (hreach : InReach (lone l) start steps) (hvalid : ∀ s ∈ steps, s.IsValid)
    (happlies : ∀ s ∈ steps, s.OnCheck fun _ _ _ fares => fares.Applies) :
    let decided (run : List (Step Delivery)) :=
      verdicts ((fresh start).run (lone l) (Relay.service name) run).answer
    decided steps = (Book.empty.verdicts l.window start steps).map (Option.map .ok) ∧
      ∀ others : List (Step Delivery),
        (∀ s ∈ others, s.OnCheck fun _ _ _ fares => fares.Applies) →
        others.map (Step.faring ()) = steps.map (Step.faring ()) →
        decided others = decided steps := by
  intro decided
  have hbook (run : List (Step Delivery))
      (happlies : ∀ s ∈ run, s.OnCheck fun _ _ _ fares => fares.Applies)
      (hsame : run.map (Step.faring ()) = steps.map (Step.faring ())) :
      decided run = (Book.empty.verdicts l.window start steps).map (Option.map .ok) := by
    rw [← Book.verdicts_map_faring l.window start Book.empty () steps, ← hsame,
      Book.verdicts_map_faring]
    rw [← forward_map_faring (), ← hsame, forward_map_faring] at hforward
    rw [← inReach_map_faring (), ← hsame, inReach_map_faring] at hreach
    rw [← isValid_map_faring (), ← hsame, isValid_map_faring] at hvalid
    exact verdicts_of_level Book.empty hwindow hforward hreach hvalid happlies
      (mirrors_fresh start) (level_fresh start l.keyPrefix)
  exact ⟨hbook steps happlies rfl, fun others hothers hsame =>
    (hbook others hothers hsame).trans (hbook steps happlies rfl).symm⟩

/-- The limit is counted down in two windows with sweeps between them, and the answers that one run
loses are those that the other does not. -/
theorem verdicts_lone_of_lost_answers :
    let l : Limiter := { window := .ofSecs 1 }
    let lost : Delivery := .lostAfter (.timeout (.ofMillis 50))
    let run (first second : Delivery) : List (Step Delivery) :=
      [.check 0 "a" 2 first, .check 0 "a" 3 second, .check 0 "a" 2 first, .sweepStore,
        .set ⟨nanosPerSec⟩, .sweepCache 0, .check 0 "a" 1 second]
    let decided (run : List (Step Delivery)) :=
      verdicts ((fresh .zero).run (lone l) (Relay.service "memory") run).answer
    decided (run .sound lost) =
        (Book.empty.verdicts l.window .zero (run .sound lost)).map (Option.map .ok) ∧
      decided (run lost .sound) = decided (run .sound lost) := by
  intro l lost run decided
  obtain ⟨hbook, hlost⟩ := verdicts_lone l "memory" (by decide +zetaReduce) .zero (run .sound lost)
    (by decide +zetaReduce) (by decide +zetaReduce) (by decide +zetaReduce)
    (by decide +zetaReduce)
  exact ⟨hbook, hlost (run lost .sound) (by decide +zetaReduce) rfl⟩

end FixedWindow.Fleet
