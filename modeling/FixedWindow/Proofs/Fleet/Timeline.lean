import FixedWindow.Fleet
import FixedWindow.Proofs.Tally

/-!
# Runs and their clock

What may happen in a run is restricted step by step. `Fleet.Along` imposes a condition on each step
and the reading of the clock that it meets; `Fleet.Step.OnCheck` imposes one on the checks alone. A
run is seen as the list of its passages, each of which holds a step with the fleet that it met, the
answer of the store if it was asked, and the effect.

## Main definitions

* `Fleet.Step.clock`, `Fleet.Step.checks`, `Fleet.Step.faring`.
* `Fleet.Step.OnCheck`, `Fleet.Step.IsValid`.
* `Fleet.Along`, `Fleet.Forward`, `Fleet.InReach`.
* `Fleet.reply?`, `Fleet.Passage`, `Fleet.passages`, `Fleet.checksOf`.
* `Fleet.verdicts`: the answers of a run, apart from the source of the decisions.

## Main results

* `Fleet.now_step`, `Fleet.along_after`: the clock after a step, and the conditions on the rest.
* `Fleet.passages_append`: the passages of two runs in a row follow each other.
* `Fleet.forall_passages`: what every step keeps holds before each passage.
-/

namespace FixedWindow.Fleet

variable {σ δ ε : Type}

namespace Step

/-- The reading of the clock after the step. -/
def clock (now : Instant) : Step δ → Instant
  | set time => time
  | check .. | sweepCache _ | sweepStore => now

/-- Imposes a condition on a step if it is a check: on the number of the limiter, the subject, the
limit, and the way in which the call to the store fares. -/
def OnCheck (P : Nat → String → Nat → δ → Prop) : Step δ → Prop
  | check i subject limit fares => P i subject limit fares
  | set _ | sweepCache _ | sweepStore => True

instance (P : Nat → String → Nat → δ → Prop)
    [∀ i subject limit fares, Decidable (P i subject limit fares)] :
    DecidablePred (OnCheck P) := fun s => by
  cases s <;> unfold OnCheck <;> infer_instance

theorem OnCheck.imp {P Q : Nat → String → Nat → δ → Prop}
    (h : ∀ i subject limit fares, P i subject limit fares → Q i subject limit fares) {s : Step δ}
    (hs : s.OnCheck P) : s.OnCheck Q := by
  cases s with
  | check i subject limit fares => exact h i subject limit fares hs
  | set _ | sweepCache _ | sweepStore => trivial

/-- Whether the step is a check of the subject. -/
def checks (subject : String) : Step δ → Bool
  | check _ s _ _ => s = subject
  | set _ | sweepCache _ | sweepStore => false

theorem exists_of_checks {subject : String} {s : Step δ} (h : s.checks subject) :
    ∃ i limit fares, s = check i subject limit fares := by
  cases s with
  | check i raw limit fares =>
    obtain rfl : raw = subject := of_decide_eq_true h
    exact ⟨i, limit, fares, rfl⟩
  | set _ | sweepCache _ | sweepStore => cases h

/-- The step, with a given fate for its call to the store. -/
def faring (fares : ε) : Step δ → Step ε
  | set time => set time
  | check i subject limit _ => check i subject limit fares
  | sweepCache i => sweepCache i
  | sweepStore => sweepStore

/-- The arguments of a check are in order: a subject, and a positive limit of 64 bits. -/
def IsValid (s : Step δ) : Prop :=
  s.OnCheck fun _ subject limit _ => subject ≠ "" ∧ 0 < limit ∧ limit ≤ maxCount

instance : DecidablePred (@IsValid δ) := fun s =>
  inferInstanceAs (Decidable (s.OnCheck _))

@[simp] theorem clock_faring (fares : ε) (s : Step δ) (now : Instant) :
    (s.faring fares).clock now = s.clock now := by
  cases s <;> rfl

theorem onCheck_faring (P : Nat → String → Nat → Prop) (fares : ε) (s : Step δ) :
    ((s.faring fares).OnCheck fun i subject limit _ => P i subject limit) ↔
      s.OnCheck fun i subject limit _ => P i subject limit := by
  cases s <;> rfl

end Step

/-! ### Conditions along a run -/

/-- A condition holds of each step and of the reading of the clock that it meets. -/
def Along (P : Instant → Step δ → Prop) (now : Instant) : List (Step δ) → Prop
  | [] => True
  | s :: rest => P now s ∧ Along P (s.clock now) rest

instance decidableAlong (P : Instant → Step δ → Prop) [∀ now s, Decidable (P now s)] :
    (now : Instant) → (steps : List (Step δ)) → Decidable (Along P now steps)
  | _, [] => .isTrue trivial
  | now, s :: rest =>
    have := decidableAlong P (s.clock now) rest
    inferInstanceAs (Decidable (P now s ∧ Along P (s.clock now) rest))

/-- The clock never goes back. -/
def Forward (now : Instant) (steps : List (Step δ)) : Prop :=
  Along (fun now s => now ≤ s.clock now) now steps

/-- At each check the clock can hold the window of the limiter. -/
def InReach (members : Nat → Member) (now : Instant) (steps : List (Step δ)) : Prop :=
  Along (fun now s =>
    s.OnCheck fun i _ _ _ => (now.add? (members i).limiter.window).isSome = true) now steps

instance (now : Instant) (steps : List (Step δ)) : Decidable (Forward now steps) :=
  decidableAlong ..

instance (members : Nat → Member) (now : Instant) (steps : List (Step δ)) :
    Decidable (InReach members now steps) :=
  decidableAlong ..

theorem along_of_forall {P : Instant → Step δ → Prop} {steps : List (Step δ)}
    (h : ∀ s ∈ steps, ∀ now, P now s) (now : Instant) : Along P now steps := by
  induction steps generalizing now with
  | nil => trivial
  | cons s rest ih =>
    obtain ⟨hs, hrest⟩ := List.forall_mem_cons.mp h
    exact ⟨hs now, ih hrest (s.clock now)⟩

theorem Along.and {P Q : Instant → Step δ → Prop} {now : Instant} {steps : List (Step δ)}
    (hP : Along P now steps) (hQ : Along Q now steps) :
    Along (fun now s => P now s ∧ Q now s) now steps := by
  induction steps generalizing now with
  | nil => trivial
  | cons s rest ih => exact ⟨⟨hP.1, hQ.1⟩, ih hP.2 hQ.2⟩

theorem along_map_faring {P : Instant → Step δ → Prop} {Q : Instant → Step ε → Prop} {fares : ε}
    (h : ∀ now s, Q now (s.faring fares) ↔ P now s) {now : Instant} {steps : List (Step δ)} :
    Along Q now (steps.map (Step.faring fares)) ↔ Along P now steps := by
  induction steps generalizing now with
  | nil => exact Iff.rfl
  | cons s rest ih =>
    rw [List.map_cons, Along, Along, Step.clock_faring, ih, h]

theorem forward_map_faring (fares : ε) {now : Instant} {steps : List (Step δ)} :
    Forward now (steps.map (Step.faring fares)) ↔ Forward now steps :=
  along_map_faring fun now s => by rw [Step.clock_faring]

theorem inReach_map_faring {members : Nat → Member} (fares : ε) {now : Instant}
    {steps : List (Step δ)} :
    InReach members now (steps.map (Step.faring fares)) ↔ InReach members now steps :=
  along_map_faring fun _ s => Step.onCheck_faring _ fares s

theorem isValid_map_faring (fares : ε) {steps : List (Step δ)} :
    (∀ s ∈ steps.map (Step.faring fares), s.IsValid) ↔ ∀ s ∈ steps, s.IsValid := by
  rw [List.forall_mem_map]
  exact forall₂_congr fun s _ => Step.onCheck_faring _ fares s

/-! ### Passages -/

/-- What the store answers in a step, if the step is a check that asks it. -/
def reply? (members : Nat → Member) (service : Store.Service σ δ) (f : Fleet σ) :
    Step δ → Option Store.Answer
  | .check i subject limit fares =>
    let m := members i
    match m.limiter.opening (f.caches m.cache) f.now subject limit with
    | .settled .. => none
    | .ask _ call => some ((service.backend fares).increment f.store f.now call).answer
  | .set _ | .sweepCache _ | .sweepStore => none

/-- A step with the fleet that it met, what the store answered if it was asked, and the effect. -/
structure Passage (σ δ : Type) where
  before : Fleet σ
  step : Step δ
  reply : Option Store.Answer
  effect : Effect (Fleet σ) (Option (Except LimitError Decision))

namespace Passage

/-- The fleet that the step left. -/
def after (p : Passage σ δ) : Fleet σ := p.effect.state

/-- The answer of the step, if it was a check. -/
def answer (p : Passage σ δ) : Option (Except LimitError Decision) := p.effect.answer

/-- Whether a call to the store failed. -/
def StoreFailed (p : Passage σ δ) : Prop := ∃ e, p.reply = some (.error e)

instance : DecidablePred (@StoreFailed σ δ) := fun p =>
  match h : p.reply with
  | some (.error e) => .isTrue ⟨e, h⟩
  | some (.ok _) => .isFalse fun ⟨_, he⟩ => by cases h.symm.trans he
  | none => .isFalse fun ⟨_, he⟩ => by cases h.symm.trans he

/-- Whether a call to the store succeeded. -/
def StoreAnswered (p : Passage σ δ) : Prop := ∃ figures, p.reply = some (.ok figures)

instance : DecidablePred (@StoreAnswered σ δ) := fun p =>
  match h : p.reply with
  | some (.ok figures) => .isTrue ⟨figures, h⟩
  | some (.error _) => .isFalse fun ⟨_, hok⟩ => by cases h.symm.trans hok
  | none => .isFalse fun ⟨_, hok⟩ => by cases h.symm.trans hok

end Passage

/-- The passage of one step. -/
def passage (members : Nat → Member) (service : Store.Service σ δ) (f : Fleet σ) (s : Step δ) :
    Passage σ δ :=
  ⟨f, s, f.reply? members service s, f.step members service s⟩

/-- The passages of a run, in order. -/
def passages (members : Nat → Member) (service : Store.Service σ δ) (f : Fleet σ) :
    List (Step δ) → List (Passage σ δ)
  | [] => []
  | s :: rest =>
    let p := f.passage members service s
    p :: passages members service p.after rest

theorem length_passages (members : Nat → Member) (service : Store.Service σ δ) (f : Fleet σ)
    (steps : List (Step δ)) : (f.passages members service steps).length = steps.length := by
  induction steps generalizing f with
  | nil => rfl
  | cons s rest ih => exact congrArg (· + 1) (ih _)

/-- The passages of two runs in a row. -/
theorem passages_append (members : Nat → Member) (service : Store.Service σ δ) (f : Fleet σ)
    (steps others : List (Step δ)) :
    f.passages members service (steps ++ others) =
      f.passages members service steps ++
        (f.run members service steps).state.passages members service others := by
  induction steps generalizing f with
  | nil => rfl
  | cons s rest ih => exact congrArg (f.passage members service s :: ·) (ih _)

/-- The passages that check a subject. -/
def checksOf (subject : String) (ps : List (Passage σ δ)) : List (Passage σ δ) :=
  ps.filter (·.step.checks subject)

theorem checksOf_cons_of_checks {subject : String} {p : Passage σ δ}
    (h : p.step.checks subject = true) (ps : List (Passage σ δ)) :
    checksOf subject (p :: ps) = p :: checksOf subject ps :=
  List.filter_cons_of_pos h

theorem checksOf_cons_of_not_checks {subject : String} {p : Passage σ δ}
    (h : p.step.checks subject = false) (ps : List (Passage σ δ)) :
    checksOf subject (p :: ps) = checksOf subject ps :=
  List.filter_cons_of_neg (Bool.not_eq_true _ ▸ h)

/-- A step leaves the clock as it says. -/
theorem now_step (members : Nat → Member) (service : Store.Service σ δ) (f : Fleet σ)
    (s : Step δ) : (f.step members service s).state.now = s.clock f.now := by
  cases s <;> rfl

theorem now_le_step (members : Nat → Member) (service : Store.Service σ δ) {f : Fleet σ}
    {s : Step δ} (h : f.now ≤ s.clock f.now) : f.now ≤ (f.step members service s).state.now := by
  rw [now_step]
  exact h

/-- A condition along a run holds along the rest of it, on the clock that the first step leaves. -/
theorem along_after (members : Nat → Member) (service : Store.Service σ δ) {f : Fleet σ}
    {P : Instant → Step δ → Prop} {s : Step δ} {rest : List (Step δ)}
    (h : Along P f.now (s :: rest)) : Along P (f.step members service s).state.now rest := by
  rw [now_step]
  exact h.2

/-- What holds at the start of a run and is kept by every step holds before each passage. The steps
may be used under a condition that they meet along the run. -/
theorem forall_passages (members : Nat → Member) (service : Store.Service σ δ)
    {I : Fleet σ → Prop} {P : Instant → Step δ → Prop}
    (hstep : ∀ g s, I g → P g.now s → I (g.step members service s).state)
    {f : Fleet σ} {steps : List (Step δ)} (hf : I f) (hsteps : Along P f.now steps) :
    ∀ p ∈ f.passages members service steps,
      ∃ g s, p = g.passage members service s ∧ I g ∧ P g.now s := by
  induction steps generalizing f with
  | nil => intro p hp; cases hp
  | cons s rest ih =>
    rw [passages, List.forall_mem_cons]
    exact ⟨⟨f, s, rfl, hf, hsteps.1⟩,
      ih (hstep f s hf hsteps.1) (along_after members service hsteps)⟩

/-! ### Answers apart from the source of the decisions -/

theorem ok_of_toOption {α β : Type} {answer : Except α β} {value : β}
    (h : answer.toOption = some value) : answer = .ok value := by
  cases answer with
  | error e => cases h
  | ok b => exact congrArg Except.ok (Option.some.inj h)

/-- The answers of a run, apart from the source of the decisions. -/
def verdicts (answers : List (Option (Except LimitError Decision))) :
    List (Option (Except LimitError Verdict)) :=
  answers.map (Option.map (Except.map Decision.verdict))

end FixedWindow.Fleet
