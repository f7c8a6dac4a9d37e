import FixedWindow.Proofs.Fleet.Lone

/-!
# A lone limiter without a store

While every call to the store fails, in whatever way and over whatever store, the cache of a lone
limiter counts by itself. It mirrors the book of the reference counter all the same, so that the
limiter decides as it would over a store of its own that never fails.

## Main results

* `Fleet.verdicts_of_outage`: a lone limiter that is never answered is the reference counter.
* `Fleet.verdicts_outage`: it decides as over a store that never fails.
-/

namespace FixedWindow.Fleet

open Store (Relay Delivery)

variable {σ δ : Type} {l : Limiter} {f : Fleet σ}

theorem counts_of_not_storeAnswered (service : Store.Service σ δ) {s : Step δ}
    (hwindow : l.window ≠ .zero) (hvalid : s.IsValid)
    (hsilent : ¬ (f.passage (lone l) service s).StoreAnswered) : f.Counts l service s := by
  cases s with
  | check i raw limit fares =>
    rintro subject rfl hroom newEnd hend
    have hreply := reply?_of_room (lone l) i hvalid.2.1 hroom service fares
    cases hanswer : ((service.backend fares).increment f.store f.now
        (call (lone l) i subject)).answer with
    | ok figures => exact (hsilent ⟨figures, hreply.trans (congrArg some hanswer)⟩).elim
    | error e =>
      exact ⟨.degraded, ask_of_failure (lone l) i limit _ hanswer hwindow (fun _ => hend)
        fun t ht => Nat.lt_of_lt_of_le (hroom t ht) hvalid.2.2⟩
  | set _ | sweepCache _ | sweepStore => trivial

/-- A lone limiter whose store never answers decides as the reference counter. -/
theorem verdicts_of_outage (service : Store.Service σ δ) {steps : List (Step δ)} (book : Book)
    (hwindow : l.window ≠ .zero) (hforward : Forward f.now steps)
    (hreach : InReach (lone l) f.now steps) (hvalid : ∀ s ∈ steps, s.IsValid)
    (hsilent : ∀ p ∈ f.passages (lone l) service steps, ¬ p.StoreAnswered)
    (hmirrors : f.Mirrors book) :
    verdicts (f.run (lone l) service steps).answer =
      (book.verdicts l.window f.now steps).map (Option.map .ok) := by
  induction steps generalizing f book with
  | nil => rfl
  | cons s rest ih =>
    rw [List.forall_mem_cons] at hvalid
    rw [passages, List.forall_mem_cons] at hsilent
    obtain ⟨hanswer, hmirrors'⟩ := hmirrors.step service hwindow hforward.1 hreach.1 hvalid.1
      (counts_of_not_storeAnswered service hwindow hvalid.1 hsilent.1)
    have hrest := ih _ (along_after (lone l) service hforward)
      (along_after (lone l) service hreach) hvalid.2 hsilent.2 hmirrors'
    rw [now_step] at hrest
    exact List.cons_eq_cons.mpr ⟨hanswer, hrest⟩

/-- Over a store of its own that never fails, a lone limiter decides as the reference counter. -/
theorem verdicts_of_sound (name : String) {start : Instant} {steps : List (Step δ)}
    (hwindow : l.window ≠ .zero) (hforward : Forward start steps)
    (hreach : InReach (lone l) start steps) (hvalid : ∀ s ∈ steps, s.IsValid) :
    verdicts ((fresh start).run (lone l) (Relay.service name)
        (steps.map (Step.faring Delivery.sound))).answer =
      (Book.empty.verdicts l.window start steps).map (Option.map .ok) := by
  have happlies : ∀ s ∈ steps.map (Step.faring Delivery.sound),
      s.OnCheck fun _ _ _ fares => fares.Applies := by
    rw [List.forall_mem_map]
    intro s _
    cases s <;> trivial
  rw [← Book.verdicts_map_faring l.window start Book.empty Delivery.sound steps]
  exact verdicts_of_level Book.empty hwindow ((forward_map_faring _).mpr hforward)
    ((inReach_map_faring _).mpr hreach) ((isValid_map_faring _).mpr hvalid) happlies
    (mirrors_fresh start) (level_fresh start l.keyPrefix)

/-- A lone limiter with an empty cache whose store never answers is the reference counter, whatever
the store is and however its calls fail. Apart from the source of its decisions, it decides as it
would over a store of its own that never fails. -/
theorem verdicts_outage (l : Limiter) (service : Store.Service σ δ) (hwindow : l.window ≠ .zero)
    (f : Fleet σ) (hempty : f.caches 0 = Cache.empty) (steps : List (Step δ))
    (hforward : Forward f.now steps) (hreach : InReach (lone l) f.now steps)
    (hvalid : ∀ s ∈ steps, s.IsValid)
    (hsilent : ∀ p ∈ f.passages (lone l) service steps, ¬ p.StoreAnswered) (name : String) :
    let decided := verdicts (f.run (lone l) service steps).answer
    decided = (Book.empty.verdicts l.window f.now steps).map (Option.map .ok) ∧
      decided = verdicts ((fresh f.now).run (lone l) (Relay.service name)
        (steps.map (Step.faring .sound))).answer := by
  have hmirrors : f.Mirrors Book.empty := fun subject => by
    rw [cached?, hempty]
    rfl
  have hbook := verdicts_of_outage service Book.empty hwindow hforward hreach hvalid hsilent
    hmirrors
  refine ⟨hbook, hbook.trans ?_⟩
  exact (verdicts_of_sound name hwindow hforward hreach hvalid).symm

/-- Calls that fail in three ways, a sweep, and a second window. -/
theorem verdicts_outage_of_mixed_failures :
    let l : Limiter := { window := .ofSecs 1 }
    let service := Relay.service "memory"
    let steps : List (Step Delivery) :=
      [.check 0 "a" 2 (.lostBefore .redis), .check 0 "a" 2 (.lostAfter (.timeout (.ofMillis 50))),
        .check 0 "a" 2 (.lostBefore (.protocol (.count 0))), .set ⟨nanosPerSec⟩, .sweepCache 0,
        .check 0 "a" 2 (.lostBefore .redis)]
    let decided := verdicts ((fresh .zero).run (lone l) service steps).answer
    decided = (Book.empty.verdicts l.window .zero steps).map (Option.map .ok) ∧
      decided = verdicts ((fresh .zero).run (lone l) service
        (steps.map (Step.faring .sound))).answer := by
  intro l service steps decided
  exact verdicts_outage l service (by decide +zetaReduce) (fresh .zero) rfl steps
    (by decide +zetaReduce) (by decide +zetaReduce) (by decide +zetaReduce)
    (by decide +kernel +zetaReduce) "memory"

end FixedWindow.Fleet
