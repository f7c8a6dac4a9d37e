import FixedWindow.Effect
import FixedWindow.Settings.Environment
import FixedWindow.Settings.File
import FixedWindow.Settings.Validation

/-!
# Loading settings

Settings are put together from their defaults, a file and the environment, in growing precedence.
The merged values are turned into the types of the settings as far as they can be: numbers and truth
values are taken from texts, fractions are rounded, and anything simple is written out as a text.

## Main definitions

* `Settings.Value.toTruth`, `Settings.Value.toWord`, `Settings.Value.toText`,
  `Settings.Value.toStoreKind`: what a value means for a setting of a given type.
* `Settings.Section`: the values of one section.
* `Settings.ofLayers`: the settings that merged values stand for.
* `Settings.load`.
-/

namespace FixedWindow.Settings

namespace Value

/-- Where a value came from. -/
def origin? : Value → Option String
  | scalar _ origin => origin
  | list _ origin => origin
  | table _ origin => origin

/-- The fault of a value of the wrong kind under a key. -/
def misuse (v : Value) (key : String) (expected : Expected) : Fault :=
  .mistyped { found := v.found, expected := expected, key := some key, origin := v.origin? }

/-- The truth value that a value stands for. A number stands for whether it is other than zero. -/
def toTruth (key : String) (v : Value) : Except Fault Bool :=
  match v with
  | scalar (.bool b) _ => .ok b
  | scalar (.integer n) _ => .ok (n ≠ 0)
  | scalar (.float x) _ => .ok !x.isZero
  | scalar (.text s) origin =>
    let word := Text.lowercase s
    if ["1", "true", "on", "yes"].contains word then .ok true
    else if ["0", "false", "off", "no"].contains word then .ok false
    else .error ((scalar (.text word) origin).misuse key .truth)
  | _ => .error (v.misuse key .truth)

/-- The unsigned word that a value stands for. A fraction goes to the nearest one. -/
def toWord (key : String) (v : Value) : Except Fault Nat :=
  match v with
  | scalar (.bool b) _ => .ok b.toNat
  | scalar (.integer n) _ => if 0 ≤ n then .ok n.toNat else .error (v.misuse key .wholeUnsigned)
  | scalar (.float x) _ => .ok x.roundToWord
  | scalar (.text s) _ =>
    let word := Text.lowercase s
    if ["true", "on", "yes"].contains word then .ok 1
    else if ["false", "off", "no"].contains word then .ok 0
    else
      match Number.readWord64? s with
      | some n => .ok n
      | none => .error (v.misuse key .whole)
  | _ => .error (v.misuse key .whole)

/-- The text that a value stands for. -/
def toText (key : String) (v : Value) : Except Fault String :=
  match v with
  | scalar (.bool b) _ => .ok (toString b)
  | scalar (.integer n) _ => .ok (toString n)
  | scalar (.float x) _ => .ok x.text
  | scalar (.text s) _ => .ok s
  | _ => .error (v.misuse key .string)

/-- The store that a value names: a text in letters of any case, or the name of a single row. -/
def toStoreKind (v : Value) : Except Fault StoreKind :=
  let named (name : String) : Except Fault StoreKind :=
    match StoreKind.ofLabel? (Text.lowercase name) with
    | some kind => .ok kind
    | none => .error (.noSuchBackend name)
  match v with
  | scalar (.text s) _ => named s
  | table [(name, _)] _ => named name
  | _ => .error .backendKind

/-- A field of a section with its key: by its name in a table, by its position in a list. -/
def field? (v : Value) (parent name : String) (position : Nat) : Option (String × Value) :=
  match v with
  | table rows _ => (rows.lookup name).map fun value => (parent ++ "." ++ name, value)
  | list items _ =>
    items[position]?.map fun value => (parent ++ "[" ++ toString position ++ "]", value)
  | scalar .. => none

end Value

/-- A section of the merged values. -/
structure Section where
  name : String
  value : Value

namespace Section

/-- The section of a name, which has to be a table or a list. A section that is not there is a table
without rows. -/
def ofRoot (root : Value) (name : String) (expected : Expected) : Except Fault Section :=
  match root.rows.lookup name with
  | none => .ok ⟨name, .table [] none⟩
  | some (.scalar s origin) => .error (.sectionKind (Value.scalar s origin).found expected)
  | some value => .ok ⟨name, value⟩

/-- Reads a field of a section. A field that is not there has its default. -/
def read {α : Type} (s : Section) (name : String) (position : Nat) (default : α)
    (convert : (key : String) → Value → Except Fault α) : Except Fault α :=
  match s.value.field? s.name name position with
  | none => .ok default
  | some (key, value) => convert key value

/-- The settings on the store. -/
def toStore (s : Section) : Except Fault StoreSettings := do
  let d : StoreSettings := {}
  let backend ← s.read "backend" 0 d.backend fun _ v => v.toStoreKind
  let url ← s.read "url" 1 d.url Value.toText
  let poolSize ← s.read "pool_size" 2 d.poolSize Value.toWord
  let timeoutMs ← s.read "timeout_ms" 3 d.timeoutMs Value.toWord
  let keyPrefix ← s.read "key_prefix" 4 d.keyPrefix Value.toText
  pure { backend, url, poolSize, timeoutMs, keyPrefix }

/-- The settings on windows and limits. -/
def toLimits (s : Section) : Except Fault LimitSettings := do
  let d : LimitSettings := {}
  let windowSecs ← s.read "window_secs" 0 d.windowSecs Value.toWord
  let sweepIntervalSecs ← s.read "sweep_interval_secs" 1 d.sweepIntervalSecs Value.toWord
  let defaultLimit ← s.read "default_limit" 2 d.defaultLimit Value.toWord
  pure { windowSecs, sweepIntervalSecs, defaultLimit }

/-- The settings on the log. -/
def toLog (s : Section) : Except Fault LogSettings := do
  let d : LogSettings := {}
  let level ← s.read "level" 0 d.level Value.toText
  let json ← s.read "json" 1 d.json Value.toTruth
  pure { level, json }

end Section

/-- The settings that merged values stand for. -/
def ofLayers (root : Value) : Except Fault Settings := do
  let store ← (← Section.ofRoot root "store" .store).toStore
  let limits ← (← Section.ofRoot root "rate_limiting" .limits).toLimits
  let log ← (← Section.ofRoot root "logging" .log).toLog
  pure { store, limits, log }

/-- The entries of a file, which has to be there under one of its names. -/
def entriesOfFile (files : String → Option String) (name : String) :
    Except LimitError (List (String × Value)) :=
  match (fileNames name).findSome? fun n => (files n).map fun content => (n, content) with
  | none => .error (.config (.fileMissing name))
  | some (n, content) => fileEntries (plainFileName n) content

/-- Loads settings from the files and the environment variables of a system. -/
def load (files : String → Option String) (path : Option String)
    (environment : List (String × String)) : Effect Unit (Except LimitError Settings) where
  answer := do
    let entries ← path.elim (.ok []) (entriesOfFile files)
    let root ← (merge (entries ++ environmentEntries environment)).mapError .abort
    match ofLayers root with
    | .ok settings => settings.validate
    | .error fault => throw (.config fault)
  state := ()
  log := path.toList.map .loadingSettings

/-- Settings that are loaded have a store with connections. -/
theorem poolSize_pos_of_load {files : String → Option String} {path : Option String}
    {environment : List (String × String)} {settings : Settings}
    (h : (load files path environment).answer = .ok settings) : 0 < settings.store.poolSize := by
  have hpasses : ∃ s : Settings, s.validate = .ok settings := by
    simp only [load, bind, Except.bind] at h
    split at h
    · cases h
    · split at h
      · cases h
      · split at h
        · exact ⟨_, h⟩
        · cases h
  obtain ⟨s, hs⟩ := hpasses
  obtain ⟨hmet, rfl⟩ := validate_eq_ok_iff.mp hs
  exact (unmet?_eq_none_iff.mp hmet).1

end FixedWindow.Settings
