import FixedWindow.Error

/-!
# A clock moved by hand

The clock of a simulated run shows one instant until it is moved. It may be set to any instant, also
to an earlier one; moving it forward past its last instant aborts and leaves it where it was.

## Main definitions

* `Clock.advance`: the instant that the clock shows after a move forward.
-/

namespace FixedWindow.Clock

/-- Moves the clock forward. -/
def advance (now : Instant) (d : Span) : Except LimitError Instant :=
  match now.add? d with
  | some later => .ok later
  | none => .error (.abort .clockPastEnd)

end FixedWindow.Clock
