import FixedWindow.Limiter

/-!
# Tallies

Both tiers keep the same thing of a subject while its window is open: a count and the end of the
window. A `Tally` is that pair. What a check is told depends on the tally that includes it and on
nothing else, apart from the tier that the decision rests on. Here the local tier is read as a
function from subjects to tallies; `FixedWindow.Proofs.Store.Counting` reads the store so.

## Main definitions

* `Tally`, `Tally.next`: one more call, in the window that is open or in a new one.
* `Tally.open?`: what is left of a tally at an instant.
* `Tally.countIn`: the count of a window, known by its end.
* `Verdict`, `Tally.verdict`, `Decision.verdict`: a decision apart from its source.
* `Entry.tally`, `Cache.tally?`: the open window of a subject in the local tier.

## Main results

* `Cache.get?_later`, `Cache.tally?_later`: time only closes windows.
* `Cache.overwrite_of_tally`, `Cache.increment_of_add?`: the entries that the two writes put in
  place.
-/

namespace FixedWindow

/-! ### Counts with the end of their window -/

/-- A count and the end of the window that it is for. -/
structure Tally where
  count : Nat
  closesAt : Instant
  deriving DecidableEq, Repr

namespace Tally

/-- A window is open strictly before its end. -/
def isOpen (t : Tally) (now : Instant) : Bool := now < t.closesAt

@[simp] theorem isOpen_iff {t : Tally} {now : Instant} :
    t.isOpen now = true ↔ now < t.closesAt := by
  simp [isOpen]

/-- The tally with one more call: in the open window, or alone in a new one. -/
def next (current : Option Tally) (newEnd : Instant) : Tally :=
  match current with
  | some t => ⟨t.count + 1, t.closesAt⟩
  | none => ⟨1, newEnd⟩

theorem closesAt_next {P : Instant → Prop} {current : Option Tally} {newEnd : Instant}
    (hcurrent : ∀ t, current = some t → P t.closesAt) (hnew : current = none → P newEnd) :
    P (next current newEnd).closesAt := by
  cases current with
  | none => exact hnew rfl
  | some t => exact hcurrent t rfl

/-- What is left of a tally at an instant: nothing once its window has closed. -/
def open? (o : Option Tally) (now : Instant) : Option Tally := o.filter (·.isOpen now)

theorem open?_eq_some_iff {o : Option Tally} {now : Instant} {t : Tally} :
    open? o now = some t ↔ o = some t ∧ now < t.closesAt := by
  simp only [open?, Option.filter_eq_some_iff, isOpen_iff]

theorem open?_of_lt {t : Tally} {now : Instant} (h : now < t.closesAt) :
    open? (some t) now = some t :=
  open?_eq_some_iff.mpr ⟨rfl, h⟩

theorem open?_of_le {t : Tally} {now : Instant} (h : t.closesAt ≤ now) :
    open? (some t) now = none := by
  refine Option.eq_none_iff_forall_ne_some.mpr fun u hu => ?_
  obtain ⟨⟨⟩, hlt⟩ := open?_eq_some_iff.mp hu
  exact absurd hlt (Nat.not_lt.mpr h)

theorem open?_open? (o : Option Tally) {now later : Instant} (h : now ≤ later) :
    open? (open? o now) later = open? o later := by
  ext t
  simp only [open?_eq_some_iff, and_assoc, and_congr_right_iff]
  exact fun _ => ⟨fun ht => ht.2, fun ht => ⟨Nat.lt_of_le_of_lt h ht, ht⟩⟩

/-- The count of the window that ends at a given instant: none if another window is open. -/
def countIn (o : Option Tally) (closesAt : Instant) : Nat :=
  match o with
  | some t => if t.closesAt = closesAt then t.count else 0
  | none => 0

theorem countIn_of_ne {o : Option Tally} {closesAt : Instant}
    (h : o.map Tally.closesAt ≠ some closesAt) : countIn o closesAt = 0 := by
  cases o with
  | none => rfl
  | some t => exact if_neg fun ht => h (congrArg some ht)

theorem countIn_some {t : Tally} {closesAt : Instant} (h : t.closesAt = closesAt) :
    countIn (some t) closesAt = t.count :=
  if_pos h

theorem countIn_some_of_ne {t : Tally} {closesAt : Instant} (h : t.closesAt ≠ closesAt) :
    countIn (some t) closesAt = 0 :=
  if_neg h

theorem countIn_open? (o : Option Tally) {later closesAt : Instant} (h : later < closesAt) :
    countIn (open? o later) closesAt = countIn o closesAt := by
  cases o with
  | none => rfl
  | some t =>
    by_cases ht : t.closesAt = closesAt
    · rw [open?_of_lt (ht ▸ h)]
    · rw [countIn_some_of_ne ht]
      refine countIn_of_ne fun hmap => ?_
      obtain ⟨u, hu, hclose⟩ := Option.map_eq_some_iff.mp hmap
      obtain ⟨⟨⟩, -⟩ := open?_eq_some_iff.mp hu
      exact ht hclose

theorem countIn_open?_of_le (o : Option Tally) {now closesAt : Instant} (h : closesAt ≤ now) :
    countIn (open? o now) closesAt = 0 := by
  refine countIn_of_ne fun hmap => ?_
  obtain ⟨t, ht, rfl⟩ := Option.map_eq_some_iff.mp hmap
  exact Nat.not_lt.mpr h (open?_eq_some_iff.mp ht).2

theorem countIn_next {o : Option Tally} {newEnd closesAt : Instant}
    (h : (next o newEnd).closesAt = closesAt) :
    countIn (some (next o newEnd)) closesAt = countIn o closesAt + 1 := by
  rw [countIn_some h]
  cases o with
  | none => rfl
  | some t => exact congrArg (· + 1) (countIn_some (t := t) h).symm

theorem countIn_le_next (o : Option Tally) (newEnd closesAt : Instant) :
    countIn o closesAt ≤ countIn (some (next o newEnd)) closesAt := by
  by_cases h : (next o newEnd).closesAt = closesAt
  · rw [countIn_next h]
    exact Nat.le_succ _
  · cases o with
    | none => exact Nat.zero_le _
    | some t =>
      rw [countIn_some_of_ne (t := t) h]
      exact Nat.zero_le _

end Tally

/-! ### Decisions apart from their source -/

/-- A decision apart from the tier that it rests on. -/
structure Verdict where
  allowed : Bool
  limit : Nat
  remaining : Nat
  resetIn : Span
  deriving DecidableEq, Repr

/-- The decision without its source. -/
def Decision.verdict (d : Decision) : Verdict := ⟨d.allowed, d.limit, d.remaining, d.resetIn⟩

/-- What a tally says to the last call that it counts. -/
def Tally.verdict (t : Tally) (now : Instant) (limit : Nat) : Verdict :=
  ⟨t.count ≤ limit, limit, limit - t.count, t.closesAt.since now⟩

@[simp] theorem Decision.verdict_ofCount (t : Tally) (now : Instant) (limit : Nat)
    (source : Source) :
    (Decision.ofCount t.count limit (t.closesAt.since now) source).verdict =
      t.verdict now limit := rfl

/-! ### The local tier -/

/-- The count and the window of an entry. -/
def Entry.tally (e : Entry) : Tally := ⟨e.count, e.resetAt⟩

namespace Cache

/-- The open window of a subject in the local tier. -/
def tally? (c : Cache) (now : Instant) (subject : String) : Option Tally :=
  (c.get? now subject).map Entry.tally

theorem tally?_eq_open? (c : Cache) (now : Instant) (subject : String) :
    c.tally? now subject =
      Tally.open? ((c.entries.get? subject).map Entry.tally) now := by
  rw [Tally.open?, Option.filter_map]
  rfl

theorem lt_of_tally? {c : Cache} {now : Instant} {subject : String} {t : Tally}
    (h : c.tally? now subject = some t) : now < t.closesAt := by
  rw [tally?_eq_open?] at h
  exact (Tally.open?_eq_some_iff.mp h).2

/-- Time only closes windows: an entry that is live later was live before. -/
theorem get?_later (c : Cache) {now later : Instant} (subject : String) (h : now ≤ later) :
    c.get? later subject = (c.get? now subject).filter (·.isLive later) := by
  ext e
  simp only [Option.filter_eq_some_iff, get?_eq_some_iff, Entry.isLive, decide_eq_true_eq]
  exact ⟨fun he => ⟨⟨he.1, Nat.lt_of_le_of_lt h he.2⟩, he.2⟩, fun he => ⟨he.1.1, he.2⟩⟩

theorem tally?_later (c : Cache) {now later : Instant} (subject : String) (h : now ≤ later) :
    c.tally? later subject = Tally.open? (c.tally? now subject) later := by
  simp only [tally?, get?_later c subject h, Tally.open?, Option.filter_map]
  rfl

theorem tally?_put (c : Cache) {now : Instant} (subject other : String) {e : Entry}
    (h : now < e.resetAt) :
    (c.put subject e).tally? now other =
      if other = subject then some e.tally else c.tally? now other := by
  have hlive : e.isLive now = true := decide_eq_true h
  simp only [tally?, get?_put, hlive, if_true]
  split <;> rfl

/-- The store's figures become the entry of the subject. -/
theorem overwrite_of_tally (c : Cache) {now : Instant} (subject : String) (limit : Nat)
    {t : Tally} (hopen : now < t.closesAt) (hlast : t.closesAt ≤ Instant.last) :
    c.overwrite now subject t.count limit (t.closesAt.since now) =
      { answer := .ok ⟨t.count, limit, t.closesAt⟩
        state := c.put subject ⟨t.count, limit, t.closesAt⟩
        log := [.entryOverwritten subject t.count limit (t.closesAt.since now)] } := by
  have hzero : (t.closesAt.since now).isZero = false :=
    Span.isZero_eq_false_iff.mpr (Instant.since_ne_zero hopen)
  have hend : windowEnd now (t.closesAt.since now) = .ok t.closesAt :=
    windowEnd_eq_ok_iff.mpr (Instant.add?_since (Nat.le_of_lt hopen) hlast)
  simp only [overwrite, hzero, hend, Bool.false_eq_true, if_false]

/-- A call that is counted locally is counted in the tally of the subject. The clock has to hold
the window only if none is open. -/
theorem increment_of_add? (c : Cache) {now newEnd : Instant} {subject : String} (limit : Nat)
    {window : Span} (hwindow : window ≠ .zero)
    (hend : c.tally? now subject = none → now.add? window = some newEnd)
    (hroom : ∀ t, c.tally? now subject = some t → t.count < maxCount) :
    let t := Tally.next (c.tally? now subject) newEnd
    (c.increment now subject limit window).answer = .ok ⟨t.count, limit, t.closesAt⟩ ∧
      (c.increment now subject limit window).state =
        c.put subject ⟨t.count, limit, t.closesAt⟩ := by
  have hzero : window.isZero = false := Span.isZero_eq_false_iff.mpr hwindow
  unfold tally? at hend hroom ⊢
  cases hget : c.get? now subject with
  | none =>
    have hok : windowEnd now window = .ok newEnd :=
      windowEnd_eq_ok_iff.mpr (hend (by rw [hget, Option.map_none]))
    simp [increment, hzero, hget, hok, Tally.next]
  | some e =>
    have hlt : e.count < maxCount := hroom e.tally (by rw [hget]; rfl)
    simp [increment, hzero, hget, hlt, Tally.next, Entry.tally]

theorem increment_of_add?_eq_none (c : Cache) {now : Instant} {subject : String} (limit : Nat)
    {window : Span} (hwindow : window ≠ .zero) (hnone : c.tally? now subject = none)
    (hend : now.add? window = none) :
    c.increment now subject limit window =
      { answer := .error (.invariant (.clockOverflow window)), state := c } := by
  have hzero : window.isZero = false := Span.isZero_eq_false_iff.mpr hwindow
  have hget : c.get? now subject = none := Option.map_eq_none_iff.mp hnone
  simp [increment, hzero, hget, windowEnd, hend]

end Cache

end FixedWindow
