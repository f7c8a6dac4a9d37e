import Mathlib.Data.List.TakeWhile
import FixedWindow.CommandLine.Session
import FixedWindow.Proofs.Frame
import FixedWindow.Proofs.Store.CountRange

/-!
# Which decisions are reported, and how faithfully

A check is made by the limiter and then reported, and only the report looks at the calendar. A
window of any length passes validation, but the calendar ends with the year 262142. A decision whose
window closes after that has no report, and the program breaks off, unless the delay is so long that
it is not told at all. The report shows the delay as a 64-bit number of milliseconds, which is the
delay itself only below `2 ^ 64` of them. Apart from this, a run breaks off only if its store aborts
a call.

## Main definitions

* `Ruling`: a decision together with the wall time at which it was made.
* `Ruling.IsTold`, `Ruling.faithfulLine`: whether a decision has a report, and the line that would
  show all of it.
* `Session.course`: what the limiter decides in a run of checks, apart from the reports.
* `Session.IsInMemory`: a session whose counts are in memory, and not too large.

## Main results

* `Ruling.line_report_eq_faithfulLine_iff`: which reports are faithful.
* `Session.answer_checks`: the reports of a run are those of its decisions, up to the first that has
  none.
* `Ruling.forall_faithful_iff`: the windows under which every decision is reported faithfully.
* `Session.course_not_aborted_of_memory`: counters in memory abort no check of a run.
* `Session.reports_of_run`: the reports of a run that settings ask for.
-/

namespace FixedWindow.CommandLine

/-! ### One decision -/

/-- A decision, and the wall time at which it was made. -/
structure Ruling where
  wall : WallTime
  decision : Decision
  deriving DecidableEq, Repr

namespace Ruling

/-- When the window closes on the wall clock, unless the calendar ends before. -/
def closesAt? (x : Ruling) : Option WallTime := x.wall.add? x.decision.resetIn

/-- A decision has a report if its window closes within the calendar, or if the delay is too long to
be told. -/
def IsTold (x : Ruling) : Prop := longestDelay < x.decision.resetIn ∨ x.closesAt?.isSome = true

instance (x : Ruling) : Decidable x.IsTold := inferInstanceAs (Decidable (_ ∨ _))

/-- The report of a decision that has one. -/
def report (subject : String) (x : Ruling) : CheckReport := ⟨subject, x.decision, x.closesAt?⟩

/-- The line that shows all of a decision: the delay in whole milliseconds however many they are,
and the wall time at which the window closes if there is such a time. -/
def faithfulLine (subject : String) (x : Ruling) : JsonLine where
  fields := [("subject", .text subject), ("allowed", .flag x.decision.allowed),
    ("limit", .number x.decision.limit), ("remaining", .number x.decision.remaining),
    ("reset_in_ms", .number x.decision.resetIn.wholeMillis),
    ("source", .text x.decision.source.word),
    ("reset_at", match x.closesAt? with
      | some t => .text t.text
      | none => .null)]

variable {subject : String} {x : Ruling}

theorem closesAt?_of_longestDelay_le (h : longestDelay ≤ x.decision.resetIn) :
    x.closesAt? = none := by
  refine if_neg ?_
  have hnanos : 9223372036854775807 * nanosPerMilli ≤ x.decision.resetIn.nanos := h
  simp only [WallTime.endSecs, nanosPerSec, nanosPerMilli] at hnanos ⊢
  omega

theorem lt_longestDelay_of_isSome (h : x.closesAt?.isSome = true) :
    x.decision.resetIn < longestDelay := by
  refine Nat.lt_of_not_le fun hlong => ?_
  rw [closesAt?_of_longestDelay_le hlong] at h
  cases h

theorem of?_of_isTold (h : x.IsTold) :
    CheckReport.of? x.wall subject x.decision = some (x.report subject) := by
  rcases h with hlong | hsome
  · simp only [CheckReport.of?, closing?, if_pos hlong, Option.map_some, report,
      closesAt?_of_longestDelay_le (Nat.le_of_lt hlong)]
  · obtain ⟨t, ht⟩ := Option.isSome_iff_exists.mp hsome
    have hadd : x.wall.add? x.decision.resetIn = some t := ht
    have htold : ¬ longestDelay < x.decision.resetIn :=
      Nat.lt_asymm (lt_longestDelay_of_isSome hsome)
    simp only [CheckReport.of?, closing?, if_neg htold, hadd, Option.map_some, report, ht]

theorem of?_of_not_isTold (h : ¬ x.IsTold) :
    CheckReport.of? x.wall subject x.decision = none := by
  rw [IsTold, not_or, Bool.not_eq_true, Option.isSome_eq_false_iff, Option.isNone_iff_eq_none] at h
  exact CheckReport.of?_eq_none_iff.mpr h

/-- A report is faithful as long as the delay in milliseconds fits into 64 bits. -/
theorem line_report_eq_faithfulLine_iff :
    (x.report subject).line = x.faithfulLine subject ↔
      x.decision.resetIn.wholeMillis < wordSize := by
  have hclosing : ((x.closesAt?.map fun t => JsonValue.text t.text).getD .null) =
      match x.closesAt? with
      | some t => .text t.text
      | none => .null := by
    cases x.closesAt? <;> rfl
  have hword : x.decision.resetIn.millisWord = x.decision.resetIn.wholeMillis ↔
      x.decision.resetIn.wholeMillis < wordSize :=
    ⟨fun h => h ▸ Nat.mod_lt _ (by decide), Nat.mod_eq_of_lt⟩
  simp [CheckReport.line, report, faithfulLine, hclosing, hword]

theorem wholeMillis_lt_of_isSome (h : x.closesAt?.isSome = true) :
    x.decision.resetIn.wholeMillis < wordSize := by
  obtain ⟨t, ht⟩ := Option.isSome_iff_exists.mp h
  obtain ⟨hend, -⟩ := WallTime.add?_eq_some_iff.mp ht
  simp only [WallTime.endSecs, nanosPerSec] at hend
  simp only [Span.wholeMillis, nanosPerMilli, wordSize]
  omega

theorem isSome_closesAt? {window : Span} (hle : x.decision.resetIn ≤ window)
    (hheld : (x.wall.add? window).isSome = true) : x.closesAt?.isSome = true := by
  obtain ⟨t, ht⟩ := Option.isSome_iff_exists.mp hheld
  obtain ⟨hend, -⟩ := WallTime.add?_eq_some_iff.mp ht
  have hearlier : x.wall.nanos + x.decision.resetIn.nanos < WallTime.endSecs * nanosPerSec :=
    Nat.lt_of_le_of_lt (Nat.add_le_add_left hle _) hend
  exact Option.isSome_iff_exists.mpr ⟨_, WallTime.add?_eq_some_iff.mpr ⟨hearlier, rfl⟩⟩

/-- At a wall time, all decisions whose windows close within a span are reported faithfully exactly
if the calendar holds that span. -/
theorem forall_faithful_iff {wall : WallTime} {window : Span} :
    (∀ d : Decision, d.resetIn ≤ window → (⟨wall, d⟩ : Ruling).IsTold ∧
        ((⟨wall, d⟩ : Ruling).report subject).line = (⟨wall, d⟩ : Ruling).faithfulLine subject) ↔
      (wall.add? window).isSome = true := by
  constructor
  · intro hall
    let d (resetIn : Span) : Decision := ⟨true, 1, 0, resetIn, .store⟩
    rcases Nat.lt_or_ge longestDelay.nanos window.nanos with hlong | hshort
    · -- the longest delay that can be told is within the window, and then there is no report
      rcases (hall (d longestDelay) (Nat.le_of_lt hlong)).1 with hlt | hsome
      · exact (Nat.lt_irrefl _ hlt).elim
      · exact (Nat.lt_irrefl _ (lt_longestDelay_of_isSome hsome)).elim
    · rcases (hall (d window) (Nat.le_refl _)).1 with hlt | hsome
      · exact (Nat.not_lt_of_ge hshort hlt).elim
      · exact hsome
  · intro hheld d hle
    have hsome : (⟨wall, d⟩ : Ruling).closesAt?.isSome = true := isSome_closesAt? hle hheld
    exact ⟨.inr hsome, line_report_eq_faithfulLine_iff.mpr (wholeMillis_lt_of_isSome hsome)⟩

end Ruling

/-! ### A run of checks -/

/-- What becomes of decisions, and of the failure of a check after them: the decisions are reported
up to the first that has no report, and there the program breaks off. -/
def reportAll (subject : String) (course : List Ruling × Option LimitError) :
    List CheckReport × Exit :=
  ((course.1.takeWhile fun x => x.IsTold).map (·.report subject),
    if ∀ x ∈ course.1, x.IsTold then course.2.elim .success (.ofFailure .checking) else .crash)

theorem Exit.ofFailure_eq_crash_iff {stage : Stage} {e : LimitError} :
    Exit.ofFailure stage e = .crash ↔ ∃ why, e = .abort why := by
  cases e <;> simp [Exit.ofFailure]

section

variable {subject : String} {x : Ruling} {course : List Ruling × Option LimitError}

theorem reportAll_cons_of_isTold (h : x.IsTold) :
    reportAll subject (x :: course.1, course.2) =
      (x.report subject :: (reportAll subject course).1, (reportAll subject course).2) := by
  simp [reportAll, h]

theorem reportAll_cons_of_not_isTold (h : ¬ x.IsTold) :
    reportAll subject (x :: course.1, course.2) = ([], .crash) := by
  simp [reportAll, h]

theorem reportAll_eq_crash_iff :
    (reportAll subject course).2 = .crash ↔
      (∃ x ∈ course.1, ¬ x.IsTold) ∨ ∃ why, course.2 = some (.abort why) := by
  simp only [reportAll]
  split
  · rename_i hall
    have htold : ¬ ∃ x ∈ course.1, ¬ x.IsTold := fun ⟨x, hx, hnot⟩ => hnot (hall x hx)
    cases course.2 <;> simp [htold, Exit.ofFailure_eq_crash_iff]
  · rename_i hnot
    exact iff_of_true rfl (.inl (by simpa using hnot))

end

namespace Session

variable {σ : Type}

/-- The part of a check before its report: the sweeper does what is due, and the limiter decides. -/
def consult (s : Session σ) (r : Reading) : Effect (Session σ) (Except LimitError Decision) :=
  let swept := s.sweep r.now
  let done := s.limiter.attempt s.store r.now s.subject s.limit swept.state.tiers
  { answer := done.answer
    state := { swept.state with tiers := done.state }
    log := swept.log ++ done.log }

/-- What the limiter decides in the checks from number `i` on if none of them is kept from its
report, and how a check fails that is the last for this. -/
def course (readings : Nat → Except Signal Reading) (i : Nat) :
    (left : Nat) → Session σ → List Ruling × Option LimitError
  | 0, _ => ([], none)
  | left + 1, s =>
    match readings i with
    | .error _ => ([], none)
    | .ok r =>
      let first := s.consult r
      match first.answer with
      | .error e => ([], some e)
      | .ok d =>
        let others := course readings (i + 1) left first.state
        (⟨r.wall, d⟩ :: others.1, others.2)

theorem answer_check (s : Session σ) (r : Reading) :
    (s.check r).answer =
      match (s.consult r).answer with
      | .error e => .error (.ofFailure .checking e)
      | .ok d =>
        match CheckReport.of? r.wall s.subject d with
        | some report => .ok report
        | none => .error .crash := rfl

theorem state_check (s : Session σ) (r : Reading) : (s.check r).state = (s.consult r).state := rfl

theorem subject_consult (s : Session σ) (r : Reading) : (s.consult r).state.subject = s.subject :=
  rfl

/-- A run makes the reports of its course. -/
theorem answer_checks (readings : Nat → Except Signal Reading) (i left : Nat) (s : Session σ) :
    (s.checks readings i left).answer = reportAll s.subject (s.course readings i left) := by
  induction left generalizing i s with
  | zero => rfl
  | succ left ih =>
    cases hreading : readings i with
    | error signal =>
      simp only [checks, course, hreading]
      rfl
    | ok r =>
      have ih := ih (i + 1) (s.consult r).state
      rw [subject_consult] at ih
      cases hd : (s.consult r).answer with
      | error e =>
        simp only [checks, course, hreading, answer_check, hd]
        rfl
      | ok d =>
        by_cases htold : (⟨r.wall, d⟩ : Ruling).IsTold
        · simp only [checks, course, hreading, answer_check, hd, Ruling.of?_of_isTold htold,
            reportAll_cons_of_isTold htold, state_check, ih]
        · simp only [checks, course, hreading, answer_check, hd, Ruling.of?_of_not_isTold htold,
            reportAll_cons_of_not_isTold htold]

/-- A run of checks with something that every check keeps, under a limit of 64 bits. A check is
aborted only if the store aborts a call, in a session of which this holds. -/
theorem exists_of_course_abort (readings : Nat → Except Signal Reading) (i left : Nat)
    {I : Nat → Session σ → Prop}
    (hkeeps : ∀ left s r, I (left + 1) s → I left (s.consult r).state) {s : Session σ}
    (hs : I left s) (hword : s.limit ≤ maxCount) {why : Abort}
    (h : (s.course readings i left).2 = some (.abort why)) :
    ∃ left' s' now call, I (left' + 1) s' ∧ s'.store = s.store ∧
      (s'.store.increment s'.tiers.store now call).answer = .error why := by
  induction left generalizing i s with
  | zero => cases h
  | succ left ih =>
    cases hreading : readings i with
    | error signal =>
      simp only [course, hreading] at h
      cases h
    | ok r =>
      cases hd : (s.consult r).answer with
      | error e =>
        simp only [course, hreading, hd, Option.some.injEq] at h
        obtain ⟨call, hcall⟩ := s.limiter.of_attempt_abort r.now s.subject s.limit
          (s.sweep r.now).state.tiers hword (h ▸ hd)
        exact ⟨left, s, r.now, call, hs, rfl, hcall⟩
      | ok d =>
        simp only [course, hreading, hd] at h
        exact ih (i + 1) (s := (s.consult r).state) (hkeeps left s r hs) hword h

/-- A session that counts in memory, with no count above `n`. -/
def IsInMemory (n : Nat) (s : Session σ) : Prop :=
  ∃ peer kind m, s.store = Store.Choice.store peer kind ∧ s.tiers.store = .memory m ∧ m.AtMost n

theorem IsInMemory.consult {n : Nat} {s : Session σ} (h : s.IsInMemory n) (r : Reading) :
    (s.consult r).state.IsInMemory (n + 1) := by
  obtain ⟨peer, kind, m, hstore, hm, hcounts⟩ := h
  have hswept : (s.sweep r.now).state.tiers.store = .memory m := hm
  rcases s.limiter.store_attempt s.store r.now s.subject s.limit (s.sweep r.now).state.tiers with
    hkept | ⟨call, hcalled⟩
  · exact ⟨peer, kind, m, hstore, hkept.trans hswept, hcounts.mono (Nat.le_succ n)⟩
  · have hcounted : (s.store.increment (.memory m) r.now call).state =
        .memory (Store.Memory.store.increment m r.now call).state := by
      rw [hstore]
      rfl
    rw [hswept] at hcalled
    exact ⟨peer, kind, _, hstore, hcalled.trans hcounted,
      hcounts.increment_state_store r.now call⟩

theorem IsInMemory.answer_increment {n : Nat} {s : Session σ} (h : s.IsInMemory n)
    (hroom : n < maxCount) (now : Instant) (call : Store.Call) :
    ∃ answer, (s.store.increment s.tiers.store now call).answer = .ok answer := by
  obtain ⟨peer, kind, m, hstore, hm, hcounts⟩ := h
  rw [hstore, hm]
  exact ⟨_, congrArg Effect.answer (hcounts.increment_store hroom now call)⟩

/-- In memory no check of a run is aborted, as long as the counts stay within their range. -/
theorem course_not_aborted_of_memory (readings : Nat → Except Signal Reading) (i left : Nat)
    {s : Session σ} {n : Nat} (hs : s.IsInMemory n) (hroom : n + left ≤ maxCount)
    (hword : s.limit ≤ maxCount) (why : Abort) :
    (s.course readings i left).2 ≠ some (.abort why) := by
  intro h
  obtain ⟨left', s', now, call, ⟨n', hs', hroom'⟩, -, haborted⟩ :=
    exists_of_course_abort readings i left
      (I := fun left s => ∃ n, s.IsInMemory n ∧ n + left ≤ maxCount)
      (fun left s r ⟨n, hs, hroom⟩ => ⟨n + 1, hs.consult r, by omega⟩) ⟨n, hs, hroom⟩ hword h
  obtain ⟨answer, hserved⟩ := hs'.answer_increment (by omega) now call
  cases hserved.symm.trans haborted

/-- A run of checks as settings ask for it, under a limit of 64 bits. Every decision has its report
in turn, up to the first whose delay can be told but ends beyond the calendar. The program breaks
off exactly if there is one or if a check is aborted, which takes a call that the store aborts. A
report is faithful exactly if the delay is of less than `2 ^ 64` milliseconds. So as long as no
window is open for longer than the settings say, and the calendar holds one window more at each
check, all decisions are reported faithfully; and at a wall time from which the calendar does not
hold a window, there are decisions within it which are not. -/
theorem reports_of_run (settings : Settings) (peer : Redis.Peer σ) (store : Store.Choice σ)
    (instanceId subject : String) (limit : Option Nat) (start : Instant)
    (readings : Nat → Except Signal Reading) (repeats : Nat)
    (hword : limit.getD settings.limits.defaultLimit ≤ maxCount) :
    let opened := (Session.start settings peer store instanceId subject limit start).state
    let made := (opened.course readings 0 repeats).1
    let failure? := (opened.course readings 0 repeats).2
    let done := (opened.checks readings 0 repeats).answer
    let window := settings.limits.window
    done.1 = (made.takeWhile fun x => x.IsTold).map (·.report subject) ∧
      (done.2 = .crash ↔ (∃ x ∈ made, ¬ x.IsTold) ∨ ∃ why, failure? = some (.abort why)) ∧
      (∀ why, failure? = some (.abort why) →
        ∃ state now call, (opened.store.increment state now call).answer = .error why) ∧
      (∀ x : Ruling, (x.report subject).line = x.faithfulLine subject ↔
        x.decision.resetIn.wholeMillis < wordSize) ∧
      ((∀ x ∈ made, x.decision.resetIn ≤ window ∧ (x.wall.add? window).isSome = true) →
        done.1.map CheckReport.line = made.map (·.faithfulLine subject) ∧
          (done.2 = .crash → ∃ why, failure? = some (.abort why))) ∧
      ∀ wall : WallTime,
        (∀ d : Decision, d.resetIn ≤ window → (⟨wall, d⟩ : Ruling).IsTold ∧
          ((⟨wall, d⟩ : Ruling).report subject).line = (⟨wall, d⟩ : Ruling).faithfulLine subject) ↔
        (wall.add? window).isSome = true := by
  intro opened made failure? done window
  have hdone : done = reportAll subject (opened.course readings 0 repeats) :=
    opened.answer_checks readings 0 repeats
  have hcrash : done.2 = .crash ↔
      (∃ x ∈ made, ¬ x.IsTold) ∨ ∃ why, failure? = some (.abort why) := by
    rw [hdone]
    exact reportAll_eq_crash_iff
  refine ⟨congrArg Prod.fst hdone, hcrash, fun why hwhy => ?_,
    fun x => Ruling.line_report_eq_faithfulLine_iff, fun hheld => ?_,
    fun wall => Ruling.forall_faithful_iff⟩
  · obtain ⟨-, s, now, call, -, hstore, haborted⟩ := exists_of_course_abort readings 0 repeats
      (I := fun _ _ => True) (fun _ _ _ _ => trivial) trivial hword hwhy
    exact ⟨s.tiers.store, now, call, hstore ▸ haborted⟩
  have hfaithful : ∀ x ∈ made, x.IsTold ∧ (x.report subject).line = x.faithfulLine subject :=
    fun x hx => Ruling.forall_faithful_iff.mpr (hheld x hx).2 x.decision (hheld x hx).1
  refine ⟨?_, fun hend => ?_⟩
  · have hall : (made.takeWhile fun x => x.IsTold) = made :=
      List.takeWhile_eq_self_iff.mpr fun x hx => decide_eq_true (hfaithful x hx).1
    have hreports : done.1 = (made.takeWhile fun x => x.IsTold).map (·.report subject) :=
      congrArg Prod.fst hdone
    rw [hreports, hall, List.map_map]
    exact List.map_congr_left fun x hx => (hfaithful x hx).2
  · rcases hcrash.mp hend with ⟨x, hx, hnot⟩ | haborted
    · exact (hnot (hfaithful x hx).1).elim
    · exact haborted

/-- Two checks at the start of the year 2026, with three windows that pass validation. A minute is
reported faithfully. A window of `9 * 10 ^ 12` seconds closes beyond the calendar, and the program
breaks off without a line. The longest of the three is a delay that is not told, and it is reported
as one of 384 milliseconds. -/
theorem reports_of_run_of_long_windows :
    let settings (secs : Nat) : Settings :=
      { store := { backend := .memory }, limits := { windowSecs := secs } }
    let peer : Redis.Peer Unit := ⟨fun _ _ _ => (none, ()), fun _ _ _ => (none, ())⟩
    let readings (_ : Nat) : Except Signal Reading := .ok ⟨.zero, ⟨1767225600 * nanosPerSec⟩⟩
    let opened (secs : Nat) :=
      (Session.start (settings secs) peer (.memory (.create .zero)) "node" "alice" (some 5)
        .zero).state
    let made (secs : Nat) := ((opened secs).course readings 0 2).1
    let done (secs : Nat) := ((opened secs).checks readings 0 2).answer
    (∀ secs, 0 < secs → (settings secs).validate = .ok (settings secs)) ∧
      (done 60).1.map CheckReport.line = (made 60).map (·.faithfulLine "alice") ∧
      (made 60).length = 2 ∧ (done 60).2 ≠ .crash ∧
      (done 9000000000000).2 = .crash ∧ (done 9000000000000).1.length = 0 ∧
      (done 18446744073709552).2 ≠ .crash ∧ (done 18446744073709552).1.length = 2 ∧
      ∀ x ∈ made 18446744073709552, x.decision.resetIn.millisWord = 384 ∧
        (x.report "alice").line ≠ x.faithfulLine "alice" := by
  intro settings peer readings opened made done
  have hvalid (secs : Nat) (hpos : 0 < secs) : (settings secs).validate = .ok (settings secs) :=
    Settings.validate_eq_ok_iff.mpr ⟨Settings.unmet?_eq_none_iff.mpr
      ⟨Nat.zero_lt_succ _, Nat.zero_lt_succ _, show "rate_limit" ≠ "" by decide, hpos,
        Nat.zero_lt_succ _, Nat.zero_lt_succ _⟩, rfl⟩
  have hrun (secs : Nat) := reports_of_run (settings secs) peer (.memory (.create .zero)) "node"
    "alice" (some 5) .zero readings 2 (show 5 ≤ maxCount by decide)
  have hfinished (secs : Nat) :
      ¬ ∃ why, ((opened secs).course readings 0 2).2 = some (.abort why) :=
    not_exists.mpr <| course_not_aborted_of_memory readings 0 2
      ⟨peer, _, _, rfl, rfl, Store.Memory.atMost_create .zero 0⟩ (by decide)
      (show 5 ≤ maxCount by decide)
  obtain ⟨-, -, -, -, hheld, -⟩ := hrun 60
  obtain ⟨hlines, hend⟩ := hheld (by decide +kernel +zetaReduce)
  obtain ⟨hnone, hcrash, -⟩ := hrun 9000000000000
  obtain ⟨hall, hend', -, hfaithful, -⟩ := hrun 18446744073709552
  simp only [done, made, opened]
  refine ⟨hvalid, hlines, by decide +kernel +zetaReduce, mt hend (hfinished 60),
    hcrash.mpr (.inl (by decide +kernel +zetaReduce)),
    (congrArg List.length hnone).trans (by decide +kernel +zetaReduce),
    mt hend'.mp (not_or_intro (by decide +kernel +zetaReduce) (hfinished _)),
    (congrArg List.length hall).trans (by decide +kernel +zetaReduce), fun x hx => ⟨?_, ?_⟩⟩
  · revert x
    decide +kernel +zetaReduce
  · rw [ne_eq, hfaithful]
    revert x
    decide +kernel +zetaReduce

end Session

end FixedWindow.CommandLine
