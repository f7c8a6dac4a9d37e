import FixedWindow.Error

/-!
# Settings that can be used

Settings are turned down for the first condition that they do not meet.

## Main definitions

* `Settings.validate`.

## Main statements

* `Settings.validate_eq_ok_iff`: exactly the settings that meet every condition pass, unchanged.
-/

namespace FixedWindow.Settings

/-- Passes settings on that meet every condition. -/
def validate (s : Settings) : Except LimitError Settings :=
  match s.unmet? with
  | none => .ok s
  | some c => .error (.config (.unmet c))

/-- Exactly the settings that meet every condition pass, unchanged. -/
theorem validate_eq_ok_iff {s t : Settings} : s.validate = .ok t ↔ s.unmet? = none ∧ s = t := by
  unfold validate
  split <;> simp_all

end FixedWindow.Settings
