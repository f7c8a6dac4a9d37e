import FixedWindow.Number.Word

/-!
# Paths of keys

A key of layered settings may lead through several values at once: names are separated by points,
and a number in brackets picks an item of a list. A key that is not of this form is a name as it
stands.

## Main definitions

* `Settings.KeyStep`, `Settings.keyPath`.
-/

namespace FixedWindow.Settings

/-- A step from a value to a value inside of it. An item may be counted from the end, with a
negative number. -/
inductive KeyStep
  | field (name : String)
  | item (i : Int)
  deriving DecidableEq, Repr

/-- Whether a character may stand in a name on a path. -/
def isNameChar (c : Char) : Bool := c.isAlphanum || c = ' ' || c = '_' || c = '-'

/-- The number between brackets, with spaces around it. -/
def itemNumber? (cs : List Char) : Option Int :=
  let blank (c : Char) : Bool := c = ' ' || c = '\t'
  let body := ((cs.dropWhile blank).reverse.dropWhile blank).reverse
  match body with
  | '+' :: _ => none
  | _ => Number.readSigned? 64 10 body

/-- What a path is being read as: a name or a number, with its characters so far in reverse, or what
may follow a number. -/
inductive PathState
  | name (read : List Char)
  | number (read : List Char)
  | done

/-- The steps that a text stands for, if it is a path. -/
def pathSteps? : PathState → List Char → Option (List KeyStep)
  | .name read, [] => if read.isEmpty then none else some [.field (String.ofList read.reverse)]
  | .number _, [] => none
  | .done, [] => some []
  | .name read, c :: rest =>
    if isNameChar c then pathSteps? (.name (c :: read)) rest
    else if read.isEmpty then none
    else
      let step := KeyStep.field (String.ofList read.reverse)
      if c = '.' then (pathSteps? (.name []) rest).map (step :: ·)
      else if c = '[' then (pathSteps? (.number []) rest).map (step :: ·)
      else none
  | .number read, c :: rest =>
    if c = ']' then
      match itemNumber? read.reverse with
      | some i => (pathSteps? .done rest).map (.item i :: ·)
      | none => none
    else pathSteps? (.number (c :: read)) rest
  | .done, c :: rest =>
    if c = '.' then pathSteps? (.name []) rest
    else if c = '[' then pathSteps? (.number []) rest
    else none

/-- The steps that a key stands for. -/
def keyPath (key : String) : List KeyStep :=
  (pathSteps? (.name []) key.toList).getD [.field key]

example : keyPath "store.pool_size" = [.field "store", .field "pool_size"] := by decide

example : keyPath "a[-1].b" = [.field "a", .item (-1), .field "b"] := by decide

example : keyPath "a..b" = [.field "a..b"] := by decide

end FixedWindow.Settings
