import FixedWindow.Proofs.Fleet.Interference
import FixedWindow.Proofs.Fleet.Simulation

/-!
# Limiters with prefixes of their own

The limiters of a fleet may count under prefixes of their own. A key is a prefix, a colon and a
subject, and nothing in it tells where the prefix ends; the local tier does not use the prefix at
all. So limiters with different prefixes can meet in two places: under one key, if one prefix begins
with the other one and a colon, and in the entry of one subject, if they share a cache. Where the
checks of some limiters meet those of the others in neither place, the checks of the others can be
deleted from a run without a trace in the answers.

Nothing is assumed here of the windows, the limits, or the way in which calls to the store fare.

## Main definitions

* `Limiter.Separate`: prefixes that differ, and neither begins with the other one and a colon.
* `Fleet.Target`, `Fleet.targets`: the limiters and subjects of the checks in a run.
* `Fleet.KeysApart`, `Fleet.EntriesApart`: the checks of a run that do not meet.
* `Fleet.Step.through`, `Fleet.answersThrough`: the steps that are kept, and their answers.
* `Fleet.AlikeFor`: two fleets that look alike to some checks.

## Main results

* `Limiter.separate_iff`: when two limiters have no key in common.
* `Fleet.live?_check_elsewhere`, `Fleet.stored?_check_elsewhere`: a check leaves everything alone
  but the entry of its subject in its own cache and its own key.
* `Fleet.AlikeFor.check`, `Fleet.AlikeFor.check_other`, `Fleet.AlikeFor.wait`: what each step keeps.
* `Fleet.answersThrough_filter`: the checks of the other limiters can be deleted.
-/

namespace FixedWindow

open Store (Relay Delivery)

/-! ### Keys -/

namespace Limiter

/-- What every key of the limiter begins with. -/
def keyStart (l : Limiter) : List Char := l.keyPrefix.toList ++ [':']

theorem toList_storeKey (l : Limiter) (s : Subject) :
    (s.storeKey l.keyPrefix).toList = l.keyStart ++ s.text.toList := by
  simp [Subject.storeKey, keyStart]

/-- What the keys of one limiter begin with begins those of another exactly if the prefixes are the
same, or it begins the other prefix already. -/
theorem keyStart_begins_iff {l m : Limiter} :
    l.keyStart <+: m.keyStart ↔
      l.keyPrefix = m.keyPrefix ∨ l.keyStart <+: m.keyPrefix.toList := by
  have hsame : l.keyStart = m.keyStart ↔ l.keyPrefix = m.keyPrefix :=
    (List.append_left_inj _).trans String.toList_inj
  rw [← hsame]
  exact List.prefix_concat_iff

/-- The prefixes differ, and neither of them begins with the other one and a colon. -/
def Separate (l m : Limiter) : Prop :=
  l.keyPrefix ≠ m.keyPrefix ∧ ¬ l.keyStart <+: m.keyPrefix.toList ∧
    ¬ m.keyStart <+: l.keyPrefix.toList

instance (l m : Limiter) : Decidable (l.Separate m) := inferInstanceAs (Decidable (_ ∧ _))

theorem exists_storeKey_eq {l m : Limiter} (h : l.keyStart <+: m.keyStart) :
    ∃ s t : Subject, s.storeKey l.keyPrefix = t.storeKey m.keyPrefix := by
  obtain ⟨rest, hrest⟩ := h
  have hne : String.ofList (rest ++ ['x']) ≠ "" := fun hempty => by
    have hnil : rest ++ ['x'] = [] := by simpa using congrArg String.toList hempty
    cases rest <;> cases hnil
  refine ⟨⟨_, hne⟩, ⟨"x", by decide⟩, String.toList_inj.mp ?_⟩
  rw [toList_storeKey, toList_storeKey, String.toList_ofList, ← List.append_assoc, hrest]
  rfl

/-- Two limiters have no key in common exactly if their prefixes are separate. -/
theorem separate_iff {l m : Limiter} :
    l.Separate m ↔ ∀ s t : Subject, s.storeKey l.keyPrefix ≠ t.storeKey m.keyPrefix := by
  constructor
  · intro h s t hkey
    have hsame : l.keyStart ++ s.text.toList = m.keyStart ++ t.text.toList := by
      rw [← toList_storeKey, ← toList_storeKey, hkey]
    obtain ⟨hne, hl, hm⟩ := h
    rcases List.prefix_or_prefix_of_prefix (List.prefix_append l.keyStart s.text.toList)
      (hsame ▸ List.prefix_append m.keyStart t.text.toList) with hbegins | hbegins
    · exact (keyStart_begins_iff.mp hbegins).elim hne hl
    · exact (keyStart_begins_iff.mp hbegins).elim hne.symm hm
  · intro h
    have hl : ¬ l.keyStart <+: m.keyStart := fun hbegins => by
      obtain ⟨s, t, hkey⟩ := exists_storeKey_eq hbegins
      exact h s t hkey
    have hm : ¬ m.keyStart <+: l.keyStart := fun hbegins => by
      obtain ⟨t, s, hkey⟩ := exists_storeKey_eq hbegins
      exact h s t hkey.symm
    exact ⟨fun heq => hl (keyStart_begins_iff.mpr (.inl heq)),
      fun hbegins => hl (keyStart_begins_iff.mpr (.inr hbegins)),
      fun hbegins => hm (keyStart_begins_iff.mpr (.inr hbegins))⟩

end Limiter

namespace Fleet

variable {δ : Type} (members : Nat → Member)

/-! ### Where checks meet -/

/-- What a check is about: the number of its limiter, and its subject. -/
structure Target where
  limiter : Nat
  subject : Subject
  deriving DecidableEq

namespace Target

/-- The key that the check counts under in the store. -/
def key (t : Target) : String := t.subject.storeKey (members t.limiter).limiter.keyPrefix

/-- The cache that the check works on. -/
def cache (t : Target) : Nat := (members t.limiter).cache

/-- Two checks meet neither in the store nor in a cache. -/
structure Apart (t u : Target) : Prop where
  key : t.key members ≠ u.key members
  entry : t.cache members = u.cache members → t.subject ≠ u.subject

end Target

/-- What the step is about, if it is a check of a subject. -/
def Step.target? : Step δ → Option Target
  | check i raw _ _ => if h : raw = "" then none else some ⟨i, raw, h⟩
  | set _ | sweepCache _ | sweepStore => none

theorem Step.target?_check (i : Nat) (s : Subject) (limit : Nat) (fares : δ) :
    (check i s.text limit fares).target? = some ⟨i, s⟩ :=
  dif_neg s.nonempty

/-- What the checks of a run are about. -/
def targets (steps : List (Step δ)) : List Target := steps.filterMap Step.target?

/-- The checks through the kept limiters and those through the others have no key in common. -/
def KeysApart (kept : Nat → Bool) (steps : List (Step δ)) : Prop :=
  ∀ t ∈ targets steps, ∀ u ∈ targets steps, kept t.limiter = true → kept u.limiter = false →
    t.key members ≠ u.key members

/-- The checks through the kept limiters and those through the others have no entry of a cache in
common. -/
def EntriesApart (kept : Nat → Bool) (steps : List (Step δ)) : Prop :=
  ∀ t ∈ targets steps, ∀ u ∈ targets steps, kept t.limiter = true → kept u.limiter = false →
    t.cache members = u.cache members → t.subject ≠ u.subject

instance (kept : Nat → Bool) (steps : List (Step δ)) : Decidable (KeysApart members kept steps) :=
  inferInstanceAs (Decidable (∀ t ∈ targets steps, ∀ u ∈ targets steps, _))

instance (kept : Nat → Bool) (steps : List (Step δ)) :
    Decidable (EntriesApart members kept steps) :=
  inferInstanceAs (Decidable (∀ t ∈ targets steps, ∀ u ∈ targets steps, _))

variable {members}

theorem keysApart_of_separate {kept : Nat → Bool}
    (h : ∀ i j, kept i = true → kept j = false → (members i).limiter.Separate (members j).limiter)
    (steps : List (Step δ)) : KeysApart members kept steps :=
  fun t _ u _ ht hu => Limiter.separate_iff.mp (h _ _ ht hu) t.subject u.subject

/-- A check leaves everything alone in the caches but the entry of its subject in its own. -/
theorem live?_check_elsewhere {σ : Type} (store : Store.Backend σ) (f : Fleet σ) {t u : Target}
    (limit : Nat) (h : t.cache members = u.cache members → t.subject ≠ u.subject) :
    (f.check members store u.limiter u.subject.text limit).state.live? (t.cache members)
        t.subject.text = f.live? (t.cache members) t.subject.text := by
  by_cases hcache : t.cache members = u.cache members
  · exact live?_check_of_ne members store f u.limiter _ limit
      fun htext => h hcache (Subject.ext htext)
  · have hother : t.cache members ≠ (members u.limiter).cache := hcache
    simp only [live?, check, setAt, if_neg hother]

/-- A check leaves every key alone but its own. -/
theorem stored?_check_elsewhere (name : String) (d : Delivery) (f : Fleet Relay) {t u : Target}
    (limit : Nat) (h : t.key members ≠ u.key members) :
    (f.check members ((Relay.service name).backend d) u.limiter u.subject.text limit).state.stored?
        (t.key members) = f.stored? (t.key members) := by
  rcases (members u.limiter).limiter.store_check ((Relay.service name).backend d) f.now
    u.subject.text limit (f.tiers (members u.limiter) u.limiter) with hstore | ⟨s, hs, hstore⟩
  · exact congrArg (Relay.tally? · f.now _) hstore
  · obtain rfl : s = u.subject := Subject.ext hs
    exact (congrArg (Relay.tally? · f.now _) hstore).trans
      (Relay.tally?_increment_of_ne d f.store f.now h)

/-! ### Fleets that look alike -/

/-- Two fleets look alike to some checks: they show the same entry of the subject in the cache of
the limiter, and the same window under its key. -/
structure AlikeFor (members : Nat → Member) (watched : Target → Prop) (f g : Fleet Relay) :
    Prop where
  now : f.now = g.now
  live : ∀ t, watched t →
    f.live? (t.cache members) t.subject.text = g.live? (t.cache members) t.subject.text
  stored : ∀ t, watched t → f.stored? (t.key members) = g.stored? (t.key members)

namespace AlikeFor

variable {watched : Target → Prop} (name : String) {f g : Fleet Relay}
  (h : AlikeFor members watched f g)

include h

/-- One of the checks is answered alike, and the fleets go on looking alike. -/
theorem check {u : Target} (hu : watched u) (limit : Nat) (d : Delivery) :
    let backend := (Relay.service name).backend d
    let done := f.check members backend u.limiter u.subject.text limit
    let done' := g.check members backend u.limiter u.subject.text limit
    done.answer = done'.answer ∧ AlikeFor members watched done.state done'.state := by
  intro backend done done'
  obtain ⟨now, degraded, caches, store⟩ := f
  obtain ⟨now', degraded', caches', store'⟩ := g
  obtain rfl : now = now' := h.now
  obtain ⟨hanswer, hseen⟩ := (members u.limiter).limiter.check_agrees name d limit
    ⟨degraded u.limiter, caches (members u.limiter).cache, store⟩
    ⟨degraded' u.limiter, caches' (members u.limiter).cache, store'⟩ (h.live u hu) (h.stored u hu)
  refine ⟨hanswer, rfl, fun t ht => ?_, fun t ht => ?_⟩
  · by_cases hentry : t.cache members = u.cache members ∧ t.subject = u.subject
    · obtain ⟨hcache, hsubject⟩ := hentry
      rw [hcache, hsubject]
      simp only [done, done', live?, Fleet.check, setAt, Target.cache, if_true]
      exact congrArg Prod.fst hseen
    · have hne := not_and.mp hentry
      exact (live?_check_elsewhere backend _ limit hne).trans
        ((h.live t ht).trans (live?_check_elsewhere backend _ limit hne).symm)
  · by_cases hkey : t.key members = u.key members
    · rw [hkey]
      exact congrArg Prod.snd hseen
    · exact (stored?_check_elsewhere name d _ limit hkey).trans
        ((h.stored t ht).trans (stored?_check_elsewhere name d _ limit hkey).symm)

/-- A check that meets none of them, made in one fleet only, does not show. -/
theorem check_other {u : Target} (hu : ∀ t, watched t → t.Apart members u) (limit : Nat)
    (d : Delivery) :
    AlikeFor members watched (f.check members ((Relay.service name).backend d) u.limiter
      u.subject.text limit).state g where
  now := h.now
  live t ht := (live?_check_elsewhere _ f limit (hu t ht).entry).trans (h.live t ht)
  stored t ht := (stored?_check_elsewhere name d f limit (hu t ht).key).trans (h.stored t ht)

/-- The other steps let time pass in both fleets. -/
theorem wait {s : Step Delivery} (hs : s.isCheck = false) (hforward : f.now ≤ s.clock f.now) :
    AlikeFor members watched (f.step members (Relay.service name) s).state
      (g.step members (Relay.service name) s).state := by
  have hnow := h.now
  have hforward' : g.now ≤ s.clock g.now := hnow ▸ hforward
  constructor
  · rw [now_step, now_step, hnow]
  · intro t ht
    have hother : s.checks t.subject.text = false := by
      cases s with
      | check i raw limit fares => cases hs
      | set _ | sweepCache _ | sweepStore => rfl
    rw [live?_step members _ f _ hother hforward, live?_step members _ g _ hother hforward',
      h.live t ht, hnow]
  · intro t ht
    cases s with
    | check i raw limit fares => cases hs
    | sweepCache i => exact h.stored t ht
    | sweepStore =>
      exact (Relay.tally?_sweep f.store f.now _).trans
        ((h.stored t ht).trans (Relay.tally?_sweep g.store g.now _).symm)
    | set time =>
      refine (Store.Memory.tally?_later _ _ hforward).trans (Eq.trans ?_
        (Store.Memory.tally?_later _ _ hforward').symm)
      exact congrArg (Tally.open? · time) (h.stored t ht)

end AlikeFor

/-! ### Runs -/

/-- Whether the step is anything but a check through one of the other limiters. -/
def Step.through (kept : Nat → Bool) : Step δ → Bool
  | check i _ _ _ => kept i
  | set _ | sweepCache _ | sweepStore => true

/-- The answers of a run to the steps that are kept. -/
def answersThrough {σ : Type} (kept : Nat → Bool) (ps : List (Passage σ δ)) :
    List (Option (Except LimitError Decision)) :=
  (ps.filter (·.step.through kept)).map Passage.answer

theorem answersThrough_cons_of_through {σ : Type} {kept : Nat → Bool} {p : Passage σ δ}
    (h : p.step.through kept = true) (ps : List (Passage σ δ)) :
    answersThrough kept (p :: ps) = p.answer :: answersThrough kept ps :=
  congrArg (List.map Passage.answer) (List.filter_cons_of_pos h)

theorem answersThrough_cons_of_not_through {σ : Type} {kept : Nat → Bool} {p : Passage σ δ}
    (h : p.step.through kept = false) (ps : List (Passage σ δ)) :
    answersThrough kept (p :: ps) = answersThrough kept ps :=
  congrArg (List.map Passage.answer) (List.filter_cons_of_neg (Bool.not_eq_true _ ▸ h))

namespace AlikeFor

variable {watched : Target → Prop} (name : String) {f g : Fleet Relay}
  (h : AlikeFor members watched f g) {kept : Nat → Bool} {s : Step Delivery}

include h

/-- A step that is kept is answered alike, and the fleets go on looking alike. -/
theorem step_through (hs : s.through kept = true) (hforward : f.now ≤ s.clock f.now)
    (hwatched : ∀ t, s.target? = some t → kept t.limiter = true → watched t) :
    (f.step members (Relay.service name) s).answer =
        (g.step members (Relay.service name) s).answer ∧
      AlikeFor members watched (f.step members (Relay.service name) s).state
        (g.step members (Relay.service name) s).state := by
  cases s with
  | set _ | sweepCache _ | sweepStore => exact ⟨rfl, h.wait name rfl hforward⟩
  | check i raw limit fares =>
    by_cases hraw : raw = ""
    · subst hraw
      simp only [step, check_of_empty]
      exact ⟨trivial, h⟩
    · have htarget := Step.target?_check i ⟨raw, hraw⟩ limit fares
      obtain ⟨hanswer, halike⟩ := h.check name (hwatched _ htarget hs) limit fares
      exact ⟨congrArg some hanswer, halike⟩

theorem step_other (hs : s.through kept = false)
    (hapart : ∀ u, s.target? = some u → kept u.limiter = false →
      ∀ t, watched t → t.Apart members u) :
    AlikeFor members watched (f.step members (Relay.service name) s).state g := by
  cases s with
  | set _ | sweepCache _ | sweepStore => cases hs
  | check i raw limit fares =>
    by_cases hraw : raw = ""
    · subst hraw
      simp only [step, check_of_empty]
      exact h
    · have htarget := Step.target?_check i ⟨raw, hraw⟩ limit fares
      exact h.check_other name (hapart _ htarget hs) limit fares

omit s in
/-- Of two fleets that look alike to the kept checks, one makes a run and the other only the steps
that are kept: those are answered alike, if the deleted checks meet none of the kept ones. -/
theorem answersThrough_filter {steps : List (Step Delivery)} (hforward : Forward f.now steps)
    (hsteps : ∀ s ∈ steps, ∀ u, s.target? = some u →
      (kept u.limiter = true → watched u) ∧
        (kept u.limiter = false → ∀ t, watched t → t.Apart members u)) :
    answersThrough kept (f.passages members (Relay.service name) steps) =
      (g.run members (Relay.service name) (steps.filter (Step.through kept))).answer := by
  induction steps generalizing f g with
  | nil => rfl
  | cons s rest ih =>
    obtain ⟨hs, hrest⟩ := List.forall_mem_cons.mp hsteps
    have hlater := along_after members (Relay.service name) hforward
    cases hkept : s.through kept with
    | true =>
      obtain ⟨hanswer, halike⟩ :=
        h.step_through name hkept hforward.1 fun t ht => (hs t ht).1
      rw [List.filter_cons_of_pos hkept, passages, answersThrough_cons_of_through hkept]
      exact List.cons_eq_cons.mpr ⟨hanswer, ih halike hlater hrest⟩
    | false =>
      rw [List.filter_cons_of_neg (Bool.not_eq_true _ ▸ hkept), passages,
        answersThrough_cons_of_not_through hkept]
      exact ih (h.step_other name hkept fun u hu => (hs u hu).2) hlater hrest

end AlikeFor

/-- On a clock that never goes back, the checks through some limiters can be deleted from a run over
an in-memory store without a change in any other answer, if they have no entry of a cache in common
with the checks that are kept, and no key either: not in this run, or not in any, because prefixes
differ and neither begins with the other one and a colon. -/
theorem answers_without_others (members : Nat → Member) (name : String) (start : Instant)
    (steps : List (Step Delivery)) (kept : Nat → Bool) (hforward : Forward start steps)
    (hentries : EntriesApart members kept steps)
    (hkeys : KeysApart members kept steps ∨ ∀ i j, kept i = true → kept j = false →
      (members i).limiter.Separate (members j).limiter) :
    let f := fresh start
    answersThrough kept (f.passages members (Relay.service name) steps) =
      (f.run members (Relay.service name) (steps.filter (Step.through kept))).answer := by
  intro f
  have hapart : KeysApart members kept steps :=
    hkeys.elim id fun hseparate => keysApart_of_separate hseparate steps
  have hstart : AlikeFor members (fun t => t ∈ targets steps ∧ kept t.limiter = true) f f :=
    ⟨rfl, fun _ _ => rfl, fun _ _ => rfl⟩
  refine hstart.answersThrough_filter name hforward fun s hs u hu => ?_
  have hmem : u ∈ targets steps := List.mem_filterMap.mpr ⟨s, hs, hu⟩
  exact ⟨fun hkept => ⟨hmem, hkept⟩, fun hdeleted t ht =>
    ⟨hapart t ht.1 u hmem ht.2 hdeleted, hentries t ht.1 u hmem ht.2 hdeleted⟩⟩

/-- Of the limiters `0`, `1` and `2`, the last is deleted. Its prefix with a colon begins that of
limiter `1`, and it shares a cache with limiter `0`; but its subjects look like no key of the one,
and are no subjects of the other. A check that is deleted makes the pass in which the store drops
the first windows of the others. -/
theorem answers_without_others_of_three :
    let keyPrefix (i : Nat) : String := if i = 0 then "b" else if i = 1 then "a:b" else "a"
    let members (i : Nat) : Member :=
      ⟨{ window := .ofSecs (i + 1), keyPrefix := keyPrefix i }, i % 2⟩
    let kept (i : Nat) : Bool := i ≠ 2
    let steps : List (Step Delivery) :=
      [.check 0 "x" 1 .sound, .check 2 "y" 1 .sound, .check 1 "y" 2 .sound, .check 0 "x" 1 .sound,
        .check 2 "c:y" 2 (.lostAfter .redis), .set ⟨3 * nanosPerSec⟩, .check 2 "y" 1 .sound,
        .sweepCache 0, .check 0 "x" 1 .sound, .check 1 "y" 2 (.lostBefore .redis)]
    let alone : List (Step Delivery) :=
      [.check 0 "x" 1 .sound, .check 1 "y" 2 .sound, .check 0 "x" 1 .sound,
        .set ⟨3 * nanosPerSec⟩, .sweepCache 0, .check 0 "x" 1 .sound,
        .check 1 "y" 2 (.lostBefore .redis)]
    ¬ (members 1).limiter.Separate (members 2).limiter ∧
      answersThrough kept ((fresh .zero).passages members (Relay.service "memory") steps) =
        ((fresh .zero).run members (Relay.service "memory") alone).answer := by
  intro keyPrefix members kept steps alone
  have halone : steps.filter (Step.through kept) = alone := by decide
  refine ⟨by decide, ?_⟩
  rw [← halone]
  exact answers_without_others members "memory" .zero steps kept (by decide +zetaReduce)
    (by decide +zetaReduce) (.inl (by decide +zetaReduce))

/-- Prefixes of their own do not keep limiters apart by themselves. With caches of their own, a
check of one limiter is counted under the key of the other one, which then has no room left; with a
cache in common, the entry that one leaves denies the check of the other. -/
theorem answers_without_others_ne :
    let limiter (keyPrefix : String) : Limiter := { window := .ofSecs 60, keyPrefix := keyPrefix }
    let ownCaches (i : Nat) : Member := ⟨limiter (if i = 0 then "a" else "a:b"), i⟩
    let oneCache (i : Nat) : Member := ⟨limiter (if i = 0 then "a" else "b"), 0⟩
    let kept (i : Nat) : Bool := i = 0
    let oneKey : List (Step Delivery) := [.check 1 "c" 1 .sound, .check 0 "b:c" 1 .sound]
    let oneEntry : List (Step Delivery) := [.check 1 "x" 1 .sound, .check 0 "x" 1 .sound]
    let decisions (answers : List (Option (Except LimitError Decision))) :=
      answers.map fun answer => answer.bind Except.toOption
    let whole (members : Nat → Member) (steps : List (Step Delivery)) :=
      decisions (answersThrough kept
        ((fresh .zero).passages members (Relay.service "memory") steps))
    let without (members : Nat → Member) (steps : List (Step Delivery)) :=
      decisions ((fresh .zero).run members (Relay.service "memory")
        (steps.filter (Step.through kept))).answer
    (whole ownCaches oneKey = [some ⟨false, 1, 0, .ofSecs 60, .store⟩] ∧
        without ownCaches oneKey = [some ⟨true, 1, 0, .ofSecs 60, .store⟩]) ∧
      whole oneCache oneEntry = [some ⟨false, 1, 0, .ofSecs 60, .cache⟩] ∧
        without oneCache oneEntry = [some ⟨true, 1, 0, .ofSecs 60, .store⟩] := by
  decide +kernel +zetaReduce

end Fleet

end FixedWindow
