import FixedWindow.Error

/-!
# Subjects

A subject is the text that a limit applies to: any text but the empty one. In the store its counter
lives under a key made of a prefix, a colon and the subject.

## Main definitions

* `Subject`, `Subject.parse`, `Subject.storeKey`.
* `checkedLimit`: a limit of a check, which must be positive.
-/

namespace FixedWindow

/-- A text that limits apply to. -/
@[ext]
structure Subject where
  text : String
  nonempty : text ≠ ""
  deriving DecidableEq

namespace Subject

/-- Any text but the empty one is a subject. -/
def parse (raw : String) : Except LimitError Subject :=
  if h : raw = "" then .error (.validation .emptySubject) else .ok ⟨raw, h⟩

/-- The key of the subject's counter under a prefix. -/
def storeKey (s : Subject) (keyPrefix : String) : String :=
  keyPrefix ++ ":" ++ s.text

theorem parse_text (s : Subject) : parse s.text = .ok s := by
  simp [parse, s.nonempty]

theorem text_of_parse {raw : String} {s : Subject} (h : parse raw = .ok s) : s.text = raw := by
  unfold parse at h
  split at h
  · cases h
  · cases h; rfl

/-- Under one prefix, subjects have keys of their own. -/
theorem storeKey_inj {s t : Subject} {keyPrefix : String} :
    s.storeKey keyPrefix = t.storeKey keyPrefix ↔ s.text = t.text :=
  String.append_right_inj _

end Subject

/-- A limit as a check accepts it: positive. -/
def checkedLimit (limit : Nat) : Except LimitError Nat :=
  if limit = 0 then .error (.validation .zeroLimit) else .ok limit

end FixedWindow
