import FixedWindow.Settings.Load

/-!
# The fields of the settings

There are ten settings, in three sections. Each is a field: it has a name and a section, a type, and
a way to read a value. As long as the sections of the merged values are tables, the settings that
these stand for are read field by field, each from one leaf of the merged values.

## Main definitions

* `Settings.Field`: the ten fields, with `Field.sectionName` and `Field.name`.
* `Field.get`, `Field.convert`: a field of given settings, and what a value means for it.
* `Field.meaning?`: what a single value means for a field, wherever it comes from.
* `Settings.leafAt?`: the value under two names.

## Main results

* `Settings.ofLayers_eq_ok_iff`: settings are read field by field.
* `Field.convert_eq_ok_iff`: where a value comes from does not matter to what it means.
-/

namespace FixedWindow.Settings

/-- The fields of the settings. -/
inductive Field
  | backend
  | url
  | poolSize
  | timeoutMs
  | keyPrefix
  | windowSecs
  | sweepIntervalSecs
  | defaultLimit
  | level
  | json
  deriving DecidableEq, Repr

namespace Field

/-- The name of the section that a field stands in. -/
def sectionName : Field → String
  | backend | url | poolSize | timeoutMs | keyPrefix => "store"
  | windowSecs | sweepIntervalSecs | defaultLimit => "rate_limiting"
  | level | json => "logging"

/-- The name of a field in its section. -/
def name : Field → String
  | backend => "backend"
  | url => "url"
  | poolSize => "pool_size"
  | timeoutMs => "timeout_ms"
  | keyPrefix => "key_prefix"
  | windowSecs => "window_secs"
  | sweepIntervalSecs => "sweep_interval_secs"
  | defaultLimit => "default_limit"
  | level => "level"
  | json => "json"

/-- The type of a field. -/
def Content : Field → Type
  | backend => StoreKind
  | url | keyPrefix | level => String
  | poolSize | timeoutMs | windowSecs | sweepIntervalSecs | defaultLimit => Nat
  | json => Bool

/-- A field of given settings. -/
def get (s : Settings) : (f : Field) → f.Content
  | backend => s.store.backend
  | url => s.store.url
  | poolSize => s.store.poolSize
  | timeoutMs => s.store.timeoutMs
  | keyPrefix => s.store.keyPrefix
  | windowSecs => s.limits.windowSecs
  | sweepIntervalSecs => s.limits.sweepIntervalSecs
  | defaultLimit => s.limits.defaultLimit
  | level => s.log.level
  | json => s.log.json

/-- The default of a field. -/
def default (f : Field) : f.Content := f.get {}

/-- What a value under a key means for a field. -/
def convert : (f : Field) → String → Value → Except Fault f.Content
  | backend => fun _ v => v.toStoreKind
  | url | keyPrefix | level => Value.toText
  | poolSize | timeoutMs | windowSecs | sweepIntervalSecs | defaultLimit => Value.toWord
  | json => Value.toTruth

/-- What a single value means for a field. -/
def meaning? (f : Field) (x : Scalar) : Option f.Content :=
  (f.convert f.name (.scalar x none)).toOption

end Field

/-! ### Conversions -/

namespace Value

variable (key key' : String) (x : Scalar) (origin origin' : Option String)

theorem toOption_toTruth :
    ((scalar x origin).toTruth key).toOption = ((scalar x origin').toTruth key').toOption := by
  cases x with
  | text s =>
    simp only [toTruth]
    split
    · rfl
    · split <;> rfl
  | nothing | bool b | integer n | float y => rfl

theorem toOption_toWord :
    ((scalar x origin).toWord key).toOption = ((scalar x origin').toWord key').toOption := by
  cases x with
  | integer n =>
    simp only [toWord]
    split <;> rfl
  | text s =>
    simp only [toWord]
    split
    · rfl
    · split
      · rfl
      · split <;> rfl
  | nothing | bool b | float y => rfl

theorem toOption_toText :
    ((scalar x origin).toText key).toOption = ((scalar x origin').toText key').toOption := by
  cases x <;> rfl

theorem toOption_toStoreKind :
    ((scalar x origin).toStoreKind).toOption = ((scalar x origin').toStoreKind).toOption := by
  cases x <;> rfl

end Value

/-- Where a single value comes from makes no difference to what it means, only to the wording of a
fault. -/
theorem Field.convert_eq_ok_iff (f : Field) (key : String) (x : Scalar) (origin : Option String)
    (content : f.Content) :
    f.convert key (.scalar x origin) = .ok content ↔ f.meaning? x = some content := by
  have hsame : (f.convert key (.scalar x origin)).toOption = f.meaning? x := by
    cases f with
    | backend => exact Value.toOption_toStoreKind x origin none
    | url | keyPrefix | level => exact Value.toOption_toText key _ x origin none
    | poolSize | timeoutMs | windowSecs | sweepIntervalSecs | defaultLimit =>
      exact Value.toOption_toWord key _ x origin none
    | json => exact Value.toOption_toTruth key _ x origin none
  rw [← hsame]
  cases f.convert key (.scalar x origin) <;> simp [Except.toOption]

/-! ### Reading merged values -/

/-- The section of a name among merged values. -/
def sectionAt (root : Value) (name : String) : Value :=
  (root.rows.lookup name).getD (.table [] none)

/-- The value under a name of a section. -/
def leafAt? (root : Value) (sectionName name : String) : Option Value :=
  (sectionAt root sectionName).rows.lookup name

/-- A value is a table. -/
def Value.IsTable (v : Value) : Prop := ∃ rows origin, v = .table rows origin

/-- Reads a field from merged values. A field that is not there has its default. -/
def Field.readFrom (root : Value) (f : Field) : Except Fault f.Content :=
  match leafAt? root f.sectionName f.name with
  | none => .ok f.default
  | some v => f.convert (f.sectionName ++ "." ++ f.name) v

theorem bind_eq_ok_iff {ε α β : Type} {first : Except ε α} {next : α → Except ε β} {b : β} :
    (first >>= next) = .ok b ↔ ∃ a, first = .ok a ∧ next a = .ok b := by
  cases first <;> simp [bind, Except.bind]

theorem map_eq_ok_iff {ε α β : Type} {first : Except ε α} {f : α → β} {b : β} :
    first.map f = .ok b ↔ ∃ a, first = .ok a ∧ f a = b := by
  cases first <;> simp [Except.map]

namespace Section

theorem toStore_eq_ok_iff {s : Section} {x : StoreSettings} :
    s.toStore = .ok x ↔
      (s.read "backend" 0 ({} : StoreSettings).backend fun _ v => v.toStoreKind) =
          .ok x.backend ∧
        s.read "url" 1 ({} : StoreSettings).url Value.toText = .ok x.url ∧
        s.read "pool_size" 2 ({} : StoreSettings).poolSize Value.toWord = .ok x.poolSize ∧
        s.read "timeout_ms" 3 ({} : StoreSettings).timeoutMs Value.toWord = .ok x.timeoutMs ∧
        s.read "key_prefix" 4 ({} : StoreSettings).keyPrefix Value.toText = .ok x.keyPrefix := by
  obtain ⟨backend, url, poolSize, timeoutMs, keyPrefix⟩ := x
  simp only [toStore, bind_eq_ok_iff]
  constructor
  · rintro ⟨_, hbackend, _, hurl, _, hpool, _, htimeout, _, hprefix, h⟩
    cases h
    exact ⟨hbackend, hurl, hpool, htimeout, hprefix⟩
  · rintro ⟨hbackend, hurl, hpool, htimeout, hprefix⟩
    exact ⟨_, hbackend, _, hurl, _, hpool, _, htimeout, _, hprefix, rfl⟩

theorem toLimits_eq_ok_iff {s : Section} {x : LimitSettings} :
    s.toLimits = .ok x ↔
      s.read "window_secs" 0 ({} : LimitSettings).windowSecs Value.toWord = .ok x.windowSecs ∧
        s.read "sweep_interval_secs" 1 ({} : LimitSettings).sweepIntervalSecs Value.toWord =
          .ok x.sweepIntervalSecs ∧
        s.read "default_limit" 2 ({} : LimitSettings).defaultLimit Value.toWord =
          .ok x.defaultLimit := by
  obtain ⟨windowSecs, sweepIntervalSecs, defaultLimit⟩ := x
  simp only [toLimits, bind_eq_ok_iff]
  constructor
  · rintro ⟨_, hwindow, _, hsweep, _, hlimit, h⟩
    cases h
    exact ⟨hwindow, hsweep, hlimit⟩
  · rintro ⟨hwindow, hsweep, hlimit⟩
    exact ⟨_, hwindow, _, hsweep, _, hlimit, rfl⟩

theorem toLog_eq_ok_iff {s : Section} {x : LogSettings} :
    s.toLog = .ok x ↔
      s.read "level" 0 ({} : LogSettings).level Value.toText = .ok x.level ∧
        s.read "json" 1 ({} : LogSettings).json Value.toTruth = .ok x.json := by
  obtain ⟨level, json⟩ := x
  simp only [toLog, bind_eq_ok_iff]
  constructor
  · rintro ⟨_, hlevel, _, hjson, h⟩
    cases h
    exact ⟨hlevel, hjson⟩
  · rintro ⟨hlevel, hjson⟩
    exact ⟨_, hlevel, _, hjson, rfl⟩

variable {root : Value} {sectionName : String}

theorem ofRoot_of_isTable (h : (sectionAt root sectionName).IsTable) (expected : Expected) :
    ofRoot root sectionName expected = .ok ⟨sectionName, sectionAt root sectionName⟩ := by
  unfold ofRoot sectionAt at *
  cases hrow : root.rows.lookup sectionName with
  | none => rfl
  | some v =>
    obtain ⟨rows, origin, hv⟩ := h
    rw [hrow, Option.getD_some] at hv
    rw [hv]
    rfl

theorem read_of_isTable (h : (sectionAt root sectionName).IsTable) {α : Type} (name : String)
    (position : Nat) (default : α) (convert : String → Value → Except Fault α) :
    (⟨sectionName, sectionAt root sectionName⟩ : Section).read name position default convert =
      match leafAt? root sectionName name with
      | none => .ok default
      | some v => convert (sectionName ++ "." ++ name) v := by
  obtain ⟨rows, origin, hv⟩ := h
  simp only [read, leafAt?, hv, Value.field?, Value.rows]
  cases rows.lookup name <;> rfl

end Section

/-- As long as the sections are tables, settings are read field by field. -/
theorem ofLayers_eq_ok_iff {root : Value}
    (htables : ∀ f : Field, (sectionAt root f.sectionName).IsTable) {settings : Settings} :
    ofLayers root = .ok settings ↔ ∀ f : Field, f.readFrom root = .ok (f.get settings) := by
  have hstore : (sectionAt root "store").IsTable := htables .backend
  have hlimits : (sectionAt root "rate_limiting").IsTable := htables .windowSecs
  have hlog : (sectionAt root "logging").IsTable := htables .level
  obtain ⟨store, limits, log⟩ := settings
  have hsections : ofLayers root = .ok ⟨store, limits, log⟩ ↔
      (⟨"store", sectionAt root "store"⟩ : Section).toStore = .ok store ∧
        (⟨"rate_limiting", sectionAt root "rate_limiting"⟩ : Section).toLimits = .ok limits ∧
        (⟨"logging", sectionAt root "logging"⟩ : Section).toLog = .ok log := by
    simp only [ofLayers, bind_eq_ok_iff, Section.ofRoot_of_isTable hstore,
      Section.ofRoot_of_isTable hlimits, Section.ofRoot_of_isTable hlog, Except.ok.injEq,
      exists_eq_left']
    constructor
    · rintro ⟨_, hs, _, hl, _, hg, h⟩
      cases h
      exact ⟨hs, hl, hg⟩
    · rintro ⟨hs, hl, hg⟩
      exact ⟨_, hs, _, hl, _, hg, rfl⟩
  rw [hsections, Section.toStore_eq_ok_iff, Section.toLimits_eq_ok_iff, Section.toLog_eq_ok_iff]
  simp only [Section.read_of_isTable hstore, Section.read_of_isTable hlimits,
    Section.read_of_isTable hlog]
  constructor
  · rintro ⟨⟨hbackend, hurl, hpool, htimeout, hprefix⟩, ⟨hwindow, hsweep, hlimit⟩, hlevel, hjson⟩ f
    cases f with
    | backend => exact hbackend
    | url => exact hurl
    | poolSize => exact hpool
    | timeoutMs => exact htimeout
    | keyPrefix => exact hprefix
    | windowSecs => exact hwindow
    | sweepIntervalSecs => exact hsweep
    | defaultLimit => exact hlimit
    | level => exact hlevel
    | json => exact hjson
  · intro h
    exact ⟨⟨h .backend, h .url, h .poolSize, h .timeoutMs, h .keyPrefix⟩,
      ⟨h .windowSecs, h .sweepIntervalSecs, h .defaultLimit⟩, h .level, h .json⟩

end FixedWindow.Settings
