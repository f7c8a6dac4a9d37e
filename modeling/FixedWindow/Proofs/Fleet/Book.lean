import FixedWindow.Proofs.Fleet.Sight

/-!
# The reference counter

The reference counter of a window keeps of each subject nothing, or a count and the end of the
window that it is for. A call in an open window is denied once the count has reached the limit, and
then nothing is counted; below the limit it is counted and allowed. Any other call opens a window
and is allowed. Neither tiers nor sweeps nor failures play a part in it.

A lone limiter *mirrors* the book that the reference counter keeps if its cache shows of each
subject what is left of it. A check that asks the store is told what the reference counter says, and
keeps the cache a mirror, provided that the store's tally or the local one is adopted.

## Main definitions

* `Tally.judge`: what the reference counter makes of one call.
* `Book`, `Book.step`, `Book.verdicts`: its runs.
* `Fleet.lone`, `Fleet.Mirrors`, `Fleet.Counts`.

## Main results

* `Fleet.Mirrors.check`, `Fleet.Mirrors.step`: a step agrees with the reference counter and keeps
  the cache a mirror of the book.
-/

namespace FixedWindow

/-! ### One call -/

/-- What the reference counter makes of one call: its verdict, and what is kept from then on. -/
def Tally.judge (kept : Option Tally) (now : Instant) (window : Span) (limit : Nat) :
    Verdict × Tally :=
  let opening : Verdict × Tally :=
    (⟨true, limit, limit - 1, window⟩, ⟨1, ⟨now.nanos + window.nanos⟩⟩)
  match kept with
  | none => opening
  | some t =>
    if now < t.closesAt then
      if limit ≤ t.count then (⟨false, limit, 0, t.closesAt.since now⟩, t)
      else (⟨true, limit, limit - (t.count + 1), t.closesAt.since now⟩,
        ⟨t.count + 1, t.closesAt⟩)
    else opening

namespace Tally

variable {kept : Option Tally} {now : Instant} {window : Span} {limit : Nat}

theorem judge_of_full {t : Tally} (ht : open? kept now = some t) (hfull : limit ≤ t.count) :
    judge kept now window limit = (⟨false, limit, 0, t.closesAt.since now⟩, t) := by
  obtain ⟨rfl, hopen⟩ := open?_eq_some_iff.mp ht
  simp only [judge, hopen, hfull, if_true]

/-- As long as there is room, the verdict is that of the tally with the call in it. -/
theorem judge_of_room (hlimit : 0 < limit) {newEnd : Instant}
    (hend : now.add? window = some newEnd)
    (hroom : ∀ t, open? kept now = some t → t.count < limit) :
    judge kept now window limit =
      ((next (open? kept now) newEnd).verdict now limit, next (open? kept now) newEnd) := by
  have hopening (hnone : open? kept now = none) :
      ((⟨true, limit, limit - 1, window⟩, ⟨1, ⟨now.nanos + window.nanos⟩⟩) : Verdict × Tally) =
        ((next (open? kept now) newEnd).verdict now limit, next (open? kept now) newEnd) := by
    have hspan := Instant.since_of_add? hend
    obtain ⟨-, rfl⟩ := Instant.add?_eq_some_iff.mp hend
    have hone : decide (1 ≤ limit) = true := decide_eq_true hlimit
    simp only [hnone, next, verdict, hspan, hone]
  cases kept with
  | none => exact hopening rfl
  | some t =>
    by_cases hopen : now < t.closesAt
    · have hlt := hroom t (open?_of_lt hopen)
      have hle : decide (t.count + 1 ≤ limit) = true := decide_eq_true hlt
      simp only [judge, open?_of_lt hopen, hopen, Nat.not_le.mpr hlt, if_true, if_false, next,
        verdict, hle]
    · simp only [judge, hopen, if_false]
      exact hopening (open?_of_le (Nat.not_lt.mp hopen))

end Tally

/-! ### Runs of the reference counter -/

/-- What the reference counter keeps of each subject. -/
abbrev Book := String → Option Tally

namespace Book

variable {δ ε : Type}

/-- A book without notes. -/
def empty : Book := fun _ => none

/-- Notes what is kept of a subject. -/
def note (book : Book) (subject : String) (t : Tally) : Book :=
  fun other => if other = subject then some t else book other

/-- One step of the reference counter. Only checks matter to it. -/
def step (window : Span) (now : Instant) (book : Book) : Fleet.Step δ → Option Verdict × Book
  | .check _ subject limit _ =>
    let judged := Tally.judge (book subject) now window limit
    (some judged.1, book.note subject judged.2)
  | .set _ | .sweepCache _ | .sweepStore => (none, book)

/-- The verdicts of the reference counter in a run. -/
def verdicts (window : Span) (now : Instant) (book : Book) :
    List (Fleet.Step δ) → List (Option Verdict)
  | [] => []
  | s :: rest =>
    let done := book.step window now s
    done.1 :: verdicts window (s.clock now) done.2 rest

theorem verdicts_map_faring (window : Span) (now : Instant) (book : Book) (fares : ε)
    (steps : List (Fleet.Step δ)) :
    book.verdicts window now (steps.map (Fleet.Step.faring fares)) =
      book.verdicts window now steps := by
  induction steps generalizing now book with
  | nil => rfl
  | cons s rest ih =>
    have hstep : book.step window now (s.faring fares) = book.step window now s := by
      cases s <;> rfl
    simp only [List.map_cons, verdicts, hstep, Fleet.Step.clock_faring, ih]

end Book

/-! ### A lone limiter beside the reference counter -/

namespace Fleet

variable {σ δ : Type}

/-- One limiter with a cache of its own: every number stands for it. -/
def lone (l : Limiter) : Nat → Member := fun _ => ⟨l, 0⟩

/-- The cache of the limiter shows of each subject what is left of the book's note. -/
def Mirrors (f : Fleet σ) (book : Book) : Prop :=
  ∀ subject, f.cached? 0 subject = Tally.open? (book subject) f.now

theorem keyPrefix_lone (l : Limiter) (i : Nat) : (lone l i).limiter.keyPrefix = l.keyPrefix := rfl

theorem mirrors_fresh (now : Instant) : (fresh now).Mirrors Book.empty := fun _ => rfl

variable {l : Limiter} {f : Fleet σ} {book : Book}

/-- Should the check of a step ask the store, the local tally with the call in it is adopted. -/
def Counts (l : Limiter) (service : Store.Service σ δ) (f : Fleet σ) (s : Step δ) : Prop :=
  s.OnCheck fun i raw limit fares => ∀ subject : Subject, raw = subject.text →
    (∀ t, f.cached? 0 raw = some t → t.count < limit) →
    ∀ newEnd, f.now.add? l.window = some newEnd →
      ∃ source, f.Adopts 0 raw limit (Tally.next (f.cached? 0 raw) newEnd) source
        (f.ask (lone l) (service.backend fares) i subject limit)

namespace Mirrors

/-- A check agrees with the reference counter and keeps the cache a mirror, provided that the local
tally with the call in it is adopted whenever the store is asked. -/
theorem check (h : f.Mirrors book) (service : Store.Service σ δ) {i : Nat} {subject : Subject}
    {limit : Nat} {fares : δ} (hlimit : 0 < limit) (hwindow : l.window ≠ .zero) {newEnd : Instant}
    (hend : f.now.add? l.window = some newEnd)
    (hcounts : f.Counts l service (.check i subject.text limit fares)) :
    let judged := Tally.judge (book subject.text) f.now l.window limit
    let done := f.check (lone l) (service.backend fares) i subject.text limit
    done.answer.map Decision.verdict = .ok judged.1 ∧
      done.state.Mirrors (book.note subject.text judged.2) := by
  rcases f.full_or_room 0 subject.text limit with ⟨t, ht, hfull⟩ | hroom
  · have hdone := check_of_full (lone l) i hlimit (service.backend fares) ht hfull
    rw [h] at ht
    simp only [hdone, Tally.judge_of_full ht hfull]
    refine ⟨rfl, fun other => ?_⟩
    simp only [Book.note]
    split
    · rename_i heq
      rw [heq, h, ht, Tally.open?_of_lt (Tally.open?_eq_some_iff.mp ht).2]
    · exact h other
  · obtain ⟨source, hadopts⟩ := hcounts subject rfl hroom newEnd hend
    have hopen : f.now < (Tally.next (f.cached? 0 subject.text) newEnd).closesAt :=
      Tally.closesAt_next (fun _ => lt_of_cached?) fun _ => Instant.lt_of_add? hend hwindow
    have hcheck := check_of_room (lone l) i hlimit hroom (service.backend fares)
    have hjudge := Tally.judge_of_room hlimit hend fun t ht => hroom t ((h subject.text).trans ht)
    rw [← h subject.text] at hjudge
    simp only [hcheck, hjudge, hadopts.answer]
    refine ⟨congrArg Except.ok (Decision.verdict_ofCount _ f.now limit source), fun other => ?_⟩
    rw [hadopts.cached, Book.note]
    by_cases heq : other = subject.text
    · rw [if_pos ⟨rfl, heq⟩, if_pos heq]
      exact (Tally.open?_of_lt hopen).symm
    · rw [if_neg fun hand => heq hand.2, if_neg heq]
      exact h other

/-- One step beside the reference counter. -/
theorem step (h : f.Mirrors book) (service : Store.Service σ δ) {s : Step δ}
    (hwindow : l.window ≠ .zero) (hforward : f.now ≤ s.clock f.now)
    (hreach : s.OnCheck fun _ _ _ _ => (f.now.add? l.window).isSome = true) (hvalid : s.IsValid)
    (hcounts : f.Counts l service s) :
    let done := f.step (lone l) service s
    let reference := book.step l.window f.now s
    done.answer.map (Except.map Decision.verdict) = reference.1.map .ok ∧
      done.state.Mirrors reference.2 := by
  cases s with
  | check i raw limit fares =>
    obtain ⟨hraw, hlimit, -⟩ := hvalid
    obtain ⟨subject, rfl⟩ : ∃ subject : Subject, raw = subject.text := ⟨⟨raw, hraw⟩, rfl⟩
    obtain ⟨newEnd, hend⟩ := Option.isSome_iff_exists.mp hreach
    obtain ⟨hanswer, hmirrors⟩ := h.check service hlimit hwindow hend hcounts
    exact ⟨congrArg some hanswer, hmirrors⟩
  | set _ | sweepCache _ | sweepStore =>
    refine ⟨rfl, fun subject => ?_⟩
    rw [cached?_step (lone l) service f 0 rfl hforward, now_step, h subject]
    exact Tally.open?_open? _ hforward

end Mirrors

end Fleet

end FixedWindow
