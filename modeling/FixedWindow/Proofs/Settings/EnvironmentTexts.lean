import FixedWindow.Proofs.Number.Numeral
import FixedWindow.Proofs.Settings.Difference
import FixedWindow.Proofs.Settings.Loading

/-!
# Texts from the environment

A variable is taken for a truth value or a number before it is known that its field holds a text,
and what it was taken for is then written out again. A text that no truth value and no number is
read from arrives as it stands. Any other arrives as the written form of what was read, which need
not be the text: `007` becomes `7`.

## Main definitions

* `Settings.IsGuessed`: the texts that are taken for a truth value or a number.
* `Settings.Scalar.written`: what a value is written as.
* `Settings.TextField`: the fields that hold a text.
* `Settings.Sources`: sources of settings with a place for one more variable.

## Main results

* `Settings.isGuessed_of_written_eq`: which texts may not be told apart.
* `Settings.Sources.loadWith_eq_set`: what a variable for a text does to the settings.
* `Settings.load_verbatim`: which texts arrive as they stand.
-/

namespace FixedWindow.Settings

/-! ### What a variable is taken for -/

/-- A text that a truth value or a number is read from. -/
def IsGuessed (v : String) : Prop :=
  Text.lowercase v = "true" ∨ Text.lowercase v = "false" ∨ Number.IsNumeral v.toList

/-- What a value is written as. -/
def Scalar.written : Scalar → String
  | .nothing => ""
  | .bool b => toString b
  | .integer n => toString n
  | .float x => x.text
  | .text s => s

theorem Value.toText_of_ne_nothing {x : Scalar} (h : x ≠ .nothing) (key : String)
    (origin : Option String) : (Value.scalar x origin).toText key = .ok x.written := by
  cases x with
  | nothing => exact (h rfl).elim
  | bool | integer | float | text => rfl

theorem Scalar.ofVariable_of_not_isGuessed {v : String} (h : ¬ IsGuessed v) :
    ofVariable v = .text v := by
  rw [IsGuessed, not_or, not_or] at h
  obtain ⟨htrue, hfalse, hnumeral⟩ := h
  have hword : Number.readInt64? v = none :=
    Option.not_isSome_iff_eq_none.mp (mt Number.isNumeral_of_readInt64? hnumeral)
  have hreal : Binary64.read? v = none :=
    Option.not_isSome_iff_eq_none.mp (mt Binary64.isSome_read?_iff.mp hnumeral)
  simp only [ofVariable, if_neg htrue, if_neg hfalse, hword, hreal]

theorem Scalar.written_of_not_isGuessed {v : String} (h : ¬ IsGuessed v) :
    (ofVariable v).written = v := by
  rw [ofVariable_of_not_isGuessed h]
  rfl

/-- What a truth value or a number is written as would be taken for one again. -/
theorem isGuessed_written {v : String} (h : IsGuessed v) :
    Scalar.ofVariable v ≠ .nothing ∧ IsGuessed (Scalar.ofVariable v).written := by
  unfold Scalar.ofVariable
  simp only
  split
  · exact ⟨Scalar.noConfusion, .inl (by decide +kernel)⟩
  · rename_i htrue
    split
    · exact ⟨Scalar.noConfusion, .inr (.inl (by decide +kernel))⟩
    · rename_i hfalse
      split
      · exact ⟨Scalar.noConfusion, .inr (.inr (Number.isNumeral_toString _))⟩
      · exact ⟨Scalar.noConfusion, .inr (.inr (Binary64.isNumeral_text _))⟩
      · rename_i hreal
        have hnumeral := (h.resolve_left htrue).resolve_left hfalse
        rw [← Binary64.isSome_read?_iff, hreal] at hnumeral
        cases hnumeral

theorem not_isGuessed_empty : ¬ IsGuessed "" := by
  rw [IsGuessed, ← Binary64.isSome_read?_iff]
  decide +kernel

theorem ofVariable_of_ne_empty {v : String} (h : v ≠ "") :
    Scalar.ofVariable v ≠ .nothing ∧ (Scalar.ofVariable v).written ≠ "" := by
  by_cases hguessed : IsGuessed v
  · obtain ⟨hsome, hwritten⟩ := isGuessed_written hguessed
    exact ⟨hsome, fun hempty => not_isGuessed_empty (hempty ▸ hwritten)⟩
  · rw [Scalar.ofVariable_of_not_isGuessed hguessed]
    exact ⟨Scalar.noConfusion, h⟩

/-- Different texts that are written alike are both taken for a truth value or a number. -/
theorem isGuessed_of_written_eq {v v' : String} (hne : v ≠ v')
    (h : (Scalar.ofVariable v).written = (Scalar.ofVariable v').written) :
    IsGuessed v ∧ IsGuessed v' := by
  by_cases hv : IsGuessed v
  · refine ⟨hv, ?_⟩
    by_contra hv'
    rw [Scalar.written_of_not_isGuessed hv'] at h
    exact hv' (h ▸ (isGuessed_written hv).2)
  · rw [Scalar.written_of_not_isGuessed hv] at h
    by_cases hv' : IsGuessed v'
    · exact (hv (h ▸ (isGuessed_written hv').2)).elim
    · rw [Scalar.written_of_not_isGuessed hv'] at h
      exact (hne h).elim

/-! ### Fields that hold a text -/

/-- The fields that hold a text. -/
inductive TextField
  | url
  | keyPrefix
  | level
  deriving DecidableEq, Repr

namespace TextField

/-- A field that holds a text, as a field. -/
def field : TextField → Field
  | url => .url
  | keyPrefix => .keyPrefix
  | level => .level

/-- The text of given settings. -/
def get (s : Settings) : TextField → String
  | url => s.store.url
  | keyPrefix => s.store.keyPrefix
  | level => s.log.level

/-- Settings with another text. -/
def set (s : Settings) (text : String) : TextField → Settings
  | url => { s with store := { s.store with url := text } }
  | keyPrefix => { s with store := { s.store with keyPrefix := text } }
  | level => { s with log := { s.log with level := text } }

/-- Settings with the defaults in the section of a text. -/
def clear (s : Settings) : TextField → Settings
  | url | keyPrefix => { s with store := {} }
  | level => { s with log := {} }

variable {t : TextField} {s : Settings} {text : String}

theorem get_set : t.get (t.set s text) = text := by
  cases t <;> rfl

theorem holds_set (hs : ∀ c : Condition, c.holds s = true) (htext : text ≠ "") (c : Condition) :
    c.holds (t.set s text) = true := by
  have hc := hs c
  cases t with
  | url | level => cases c <;> exact hc
  | keyPrefix =>
    cases c with
    | keyPrefix => exact decide_eq_true htext
    | poolSize | timeout | window | sweepInterval | defaultLimit => exact hc

theorem holds_clear (hs : ∀ c : Condition, c.holds s = true) (c : Condition) :
    c.holds (t.clear s) = true := by
  have hc := hs c
  cases t with
  | url | keyPrefix =>
    cases c with
    | poolSize | timeout | keyPrefix => rfl
    | window | sweepInterval | defaultLimit => exact hc
  | level => cases c <;> exact hc

end TextField

theorem Section.ReadsOver.text {s s' : Section} {f : Field} {x : Scalar} {origin : Option String}
    (h : s.ReadsOver f (.scalar x origin) s') (hx : x ≠ .nothing) {position : Nat}
    {default : String} : s'.read f.name position default Value.toText = .ok x.written :=
  (h.own Value.toText).trans (Value.toText_of_ne_nothing hx _ origin)

/-- Values that differ in a text stand for settings that differ in this text, and otherwise are as
they were or have their defaults in the section of the text. -/
theorem Differs.ofLayers_text {root root' : Value} {t : TextField} {x : Scalar}
    {origin : Option String} (h : Differs root t.field (.scalar x origin) root')
    (hx : x ≠ .nothing) {s : Settings} (hs : ofLayers root = .ok s) :
    ofLayers root' = .ok (t.set s x.written) ∨
      ofLayers root' = .ok (t.set (t.clear s) x.written) := by
  obtain ⟨⟨store, hstore, hreadStore⟩, ⟨limits, hlimits, hreadLimits⟩, log, hlog, hreadLog⟩ :=
    ofLayers_eq_ok_iff_sections.mp hs
  obtain ⟨hbackend, hurl, hpool, htimeout, hprefix⟩ := Section.toStore_eq_ok_iff.mp hreadStore
  obtain ⟨hlevel, hjson⟩ := Section.toLog_eq_ok_iff.mp hreadLog
  have hother {name : String} {expected : Expected} {y : Section}
      (hname : name ≠ t.field.sectionName) (hy : Section.ofRoot root name expected = .ok y) :
      Section.ofRoot root' name expected = .ok y :=
    (Section.ofRoot_congr (h.elsewhere name hname) expected).trans hy
  simp only [ofLayers_eq_ok_iff_sections, Section.toStore_eq_ok_iff, Section.toLog_eq_ok_iff]
  cases t with
  | url =>
    obtain ⟨store', hstore', hover⟩ := h.exists_readsOver hstore
    have hlimits' := hother (by decide) hlimits
    have hlog' := hother (by decide) hlog
    refine hover.others.imp (fun hsame => ?_) fun hdefault => ?_
    · exact ⟨⟨store', hstore', (hsame (by decide)).trans hbackend, hover.text hx,
        (hsame (by decide)).trans hpool, (hsame (by decide)).trans htimeout,
        (hsame (by decide)).trans hprefix⟩, ⟨limits, hlimits', hreadLimits⟩,
        log, hlog', hlevel, hjson⟩
    · exact ⟨⟨store', hstore', hdefault (by decide), hover.text hx, hdefault (by decide),
        hdefault (by decide), hdefault (by decide)⟩,
        ⟨limits, hlimits', hreadLimits⟩, log, hlog', hlevel, hjson⟩
  | keyPrefix =>
    obtain ⟨store', hstore', hover⟩ := h.exists_readsOver hstore
    have hlimits' := hother (by decide) hlimits
    have hlog' := hother (by decide) hlog
    refine hover.others.imp (fun hsame => ?_) fun hdefault => ?_
    · exact ⟨⟨store', hstore', (hsame (by decide)).trans hbackend,
        (hsame (by decide)).trans hurl, (hsame (by decide)).trans hpool,
        (hsame (by decide)).trans htimeout, hover.text hx⟩, ⟨limits, hlimits', hreadLimits⟩,
        log, hlog', hlevel, hjson⟩
    · exact ⟨⟨store', hstore', hdefault (by decide), hdefault (by decide),
        hdefault (by decide), hdefault (by decide), hover.text hx⟩,
        ⟨limits, hlimits', hreadLimits⟩, log, hlog', hlevel, hjson⟩
  | level =>
    obtain ⟨log', hlog', hover⟩ := h.exists_readsOver hlog
    have hstore' := hother (by decide) hstore
    have hlimits' := hother (by decide) hlimits
    refine hover.others.imp (fun hsame => ?_) fun hdefault => ?_
    · exact ⟨⟨store, hstore', hbackend, hurl, hpool, htimeout, hprefix⟩,
        ⟨limits, hlimits', hreadLimits⟩, log', hlog', hover.text hx,
        (hsame (by decide)).trans hjson⟩
    · exact ⟨⟨store, hstore', hbackend, hurl, hpool, htimeout, hprefix⟩,
        ⟨limits, hlimits', hreadLimits⟩, log', hlog', hover.text hx, hdefault (by decide)⟩

/-! ### Loading -/

theorem Field.exists_environmentKey (f : Field) {name : String}
    (h : Text.lowercase name = f.variableName) :
    ∃ key, environmentKey? name = some key ∧
      keyPath key = [.field f.sectionName, .field f.name] :=
  ⟨_, environmentKey?_of_isPlainName h f.isPlainSection_sectionName f.isPlainName_name,
    keyPath_of_isPlainName f.isPlainSection_sectionName.toIsPlainName f.isPlainName_name⟩

/-- Sources of settings: the files, the one that is named, and the environment, in which there is a
place for one more variable. -/
structure Sources where
  files : String → Option String
  path : Option String
  before : List (String × String)
  after : List (String × String)

namespace Sources

/-- Loads settings from the sources as they are. -/
def load (s : Sources) : Except LimitError Settings :=
  (Settings.load s.files s.path (s.before ++ s.after)).answer

/-- Loads settings from the sources with one more variable. -/
def loadWith (s : Sources) (name value : String) : Except LimitError Settings :=
  (Settings.load s.files s.path (s.before ++ (name, value) :: s.after)).answer

/-- Settings are loaded from the sources as they are, or with some value of the variable for a
field. -/
def Loads (s : Sources) (f : Field) (settings : Settings) : Prop :=
  s.load = .ok settings ∨
    ∃ name value, Text.lowercase name = f.variableName ∧ s.loadWith name value = .ok settings

/-- Sources that are valid otherwise: settings are loaded from them as they are, or with some value
of the variable, and no variable behind the new one gives the field again or replaces its
section. -/
structure IsOpenTo (s : Sources) (f : Field) : Prop where
  loads : ∃ settings, s.Loads f settings
  spared : ∀ v ∈ s.after, ∀ key, environmentKey? v.1 = some key → f.IsSparedBy key

theorem exists_merge_eq (s : Sources) (entries : List (String × Value)) (f : Field) {name : String}
    (hname : Text.lowercase name = f.variableName) :
    ∃ key, keyPath key = [.field f.sectionName, .field f.name] ∧ ∀ value,
      merge (entries ++ environmentEntries (s.before ++ (name, value) :: s.after)) =
        merge (entries ++ environmentEntries s.before) >>= fun root =>
          root.put key (.scalar (.ofVariable value) (some environmentOrigin)) >>=
            (environmentEntries s.after).foldlM fun root (key, value) => root.put key value := by
  obtain ⟨key, hkey, hpath⟩ := f.exists_environmentKey hname
  refine ⟨key, hpath, fun value => ?_⟩
  rw [merge_environment]
  simp only [environmentEntries, List.filterMap_cons, hkey, Option.map_some, List.foldlM_cons]

/-- A variable for a text sets this text. All else is as it was, but if the section of the text was
a list it has its defaults. -/
theorem loadWith_eq_set {s : Sources} {t : TextField} {settings : Settings}
    (hs : s.Loads t.field settings)
    (hspared : ∀ v ∈ s.after, ∀ key, environmentKey? v.1 = some key → t.field.IsSparedBy key)
    {name v : String} (hname : Text.lowercase name = t.field.variableName) (hv : v ≠ "") :
    s.loadWith name v = .ok (t.set settings (Scalar.ofVariable v).written) ∨
      s.loadWith name v = .ok (t.set (t.clear settings) (Scalar.ofVariable v).written) := by
  obtain ⟨hsome, hwritten⟩ := ofVariable_of_ne_empty hv
  obtain ⟨entries, hentries⟩ :
      ∃ entries, s.path.elim (.ok []) (entriesOfFile s.files) = .ok entries := by
    rcases hs with hload | ⟨_, _, -, hload⟩ <;>
      exact (bind_eq_ok_iff.mp hload).imp fun _ h => h.1
  obtain ⟨key, hpath, hmerge⟩ := s.exists_merge_eq entries t.field hname
  -- the values that give the settings, whether or not the variable is among them
  obtain ⟨given, merged, hlayers, hmeets, hmerged, hdiffers⟩ : ∃ given merged,
      ofLayers given = .ok settings ∧ (∀ c : Condition, c.holds settings = true) ∧
        merge (entries ++ environmentEntries (s.before ++ (name, v) :: s.after)) = .ok merged ∧
        Differs given t.field (.scalar (.ofVariable v) (some environmentOrigin)) merged := by
    simp only [hmerge, bind_eq_ok_iff]
    rcases hs with hload | ⟨name', w, hname', hload⟩
    · obtain ⟨given, hgiven, hlayers, hmeets⟩ := ((load_of_entries _ hentries).1 settings).mp hload
      rw [merge_environment] at hgiven
      obtain ⟨root, hroot, hafter⟩ := bind_eq_ok_iff.mp hgiven
      obtain ⟨root', hput, hset⟩ :=
        Differs.of_put root hpath (.ofVariable v) (some environmentOrigin)
      obtain ⟨merged, hmerged, hdiffers⟩ := hset.foldlM hspared hafter
      exact ⟨given, merged, hlayers, hmeets, ⟨root, hroot, root', hput, hmerged⟩, hdiffers⟩
    · obtain ⟨given, hgiven, hlayers, hmeets⟩ := ((load_of_entries _ hentries).1 settings).mp hload
      obtain ⟨key', hpath', hmerge'⟩ := s.exists_merge_eq entries t.field hname'
      rw [hmerge'] at hgiven
      obtain ⟨root, hroot, hothers⟩ := bind_eq_ok_iff.mp hgiven
      obtain ⟨other, hother, hafter⟩ := bind_eq_ok_iff.mp hothers
      obtain ⟨root', hput, hset⟩ :=
        Differs.of_put root hpath (.ofVariable v) (some environmentOrigin)
      obtain ⟨other', hother', hset'⟩ :=
        Differs.of_put root hpath' (.ofVariable w) (some environmentOrigin)
      obtain rfl : other = other' := Except.ok.inj (hother.symm.trans hother')
      obtain ⟨merged, hmerged, hdiffers⟩ := (hset.beside hset').foldlM hspared hafter
      exact ⟨given, merged, hlayers, hmeets, ⟨root, hroot, root', hput, hmerged⟩, hdiffers⟩
  simp only [loadWith, (load_of_entries _ hentries).1]
  rcases hdiffers.ofLayers_text hsome hlayers with htext | htext
  · exact .inl ⟨merged, hmerged, htext, TextField.holds_set hmeets hwritten⟩
  · exact .inr ⟨merged, hmerged, htext,
      TextField.holds_set (TextField.holds_clear hmeets) hwritten⟩

end Sources

/-- Sources that are valid otherwise, with a variable for a text that is not empty, give settings
with this text, unless a truth value or a number is read from it; then they have what this is
written as. So in two instances with different texts the settings have the same one only if each of
the two texts is taken for a truth value or a number. -/
theorem load_verbatim {t : TextField} {s s' : Sources} (hs : s.IsOpenTo t.field)
    (hs' : s'.IsOpenTo t.field) {name name' v v' : String}
    (hname : Text.lowercase name = t.field.variableName)
    (hname' : Text.lowercase name' = t.field.variableName) (hv : v ≠ "") (hv' : v' ≠ "") :
    ∃ settings settings', s.loadWith name v = .ok settings ∧ s'.loadWith name' v' = .ok settings' ∧
      t.get settings = (Scalar.ofVariable v).written ∧ (¬ IsGuessed v → t.get settings = v) ∧
      (t.get settings = t.get settings' → v = v' ∨ IsGuessed v ∧ IsGuessed v') := by
  have hloads {s : Sources} (hs : s.IsOpenTo t.field) {name v : String}
      (hname : Text.lowercase name = t.field.variableName) (hv : v ≠ "") :
      ∃ settings, s.loadWith name v = .ok settings ∧
        t.get settings = (Scalar.ofVariable v).written := by
    obtain ⟨base, hbase⟩ := hs.loads
    rcases Sources.loadWith_eq_set hbase hs.spared hname hv with hload | hload <;>
      exact ⟨_, hload, TextField.get_set⟩
  obtain ⟨settings, hload, htext⟩ := hloads hs hname hv
  obtain ⟨settings', hload', htext'⟩ := hloads hs' hname' hv'
  refine ⟨settings, settings', hload, hload', htext, fun hguessed => ?_, fun hsame => ?_⟩
  · rw [htext, Scalar.written_of_not_isGuessed hguessed]
  · rw [htext, htext'] at hsame
    exact or_iff_not_imp_left.mpr fun hne => isGuessed_of_written_eq hne hsame

/-- No sources but the defaults. -/
def Sources.bare : Sources := ⟨fun _ => none, none, [], []⟩

theorem Sources.isOpenTo_bare (f : Field) : bare.IsOpenTo f where
  loads := ⟨{}, .inl rfl⟩
  spared := fun _ hv => absurd hv List.not_mem_nil

theorem Sources.loadWith_bare (t : TextField) {name v : String}
    (hname : Text.lowercase name = t.field.variableName) (hv : v ≠ "") :
    bare.loadWith name v = .ok (t.set {} (Scalar.ofVariable v).written) := by
  have hbare : bare.Loads t.field {} := .inl rfl
  have hclear : t.clear {} = {} := by cases t <;> rfl
  have hloads := loadWith_eq_set hbare (isOpenTo_bare t.field).spared hname hv
  rwa [hclear, or_self] at hloads

/-- A prefix of letters arrives, in front of a variable for the address, and is told from one of
digits, which arrives without its zeros. -/
theorem load_verbatim_of_edge :
    let s : Sources := { Sources.bare with after := [("TIERLIMIT__STORE__URL", "none")] }
    let name := "TIERLIMIT__STORE__KEY_PREFIX"
    (¬ IsGuessed "edge") ∧ (Scalar.ofVariable "007").written = "7" ∧
      ∃ settings settings', s.loadWith name "edge" = .ok settings ∧
        Sources.bare.loadWith name "007" = .ok settings' ∧ settings.store.keyPrefix = "edge" ∧
        settings.store.keyPrefix ≠ settings'.store.keyPrefix := by
  intro s name
  have hname : Text.lowercase name = Field.keyPrefix.variableName := by decide +kernel
  have hurl : Text.lowercase "TIERLIMIT__STORE__URL" = Field.url.variableName := by decide +kernel
  have hedge : ¬ IsGuessed "edge" := by
    rw [IsGuessed, ← Binary64.isSome_read?_iff]
    decide +kernel
  have hopen : s.IsOpenTo Field.keyPrefix := by
    have hloads := Sources.loadWith_bare .url hurl (show "none" ≠ "" by decide)
    refine ⟨⟨_, .inl hloads⟩, fun v hv key hkey => ?_⟩
    rw [List.mem_singleton.mp hv] at hkey
    obtain ⟨key', hkey', hpath⟩ := Field.url.exists_environmentKey hurl
    cases hkey.symm.trans hkey'
    refine .inr ⟨_, _, _, hpath, ?_⟩
    rw [Field.url.isPlainName_name.lower]
    decide
  obtain ⟨settings, settings', hload, hload', -, hverbatim, hapart⟩ :=
    load_verbatim (t := .keyPrefix) hopen (Sources.isOpenTo_bare _) hname hname
      (show "edge" ≠ "" by decide) (show "007" ≠ "" by decide)
  refine ⟨hedge, by decide +kernel, settings, settings', hload, hload', hverbatim hedge,
    fun hsame => ?_⟩
  rcases hapart hsame with hsame | ⟨hguessed, -⟩
  · exact absurd hsame (by decide)
  · exact hedge hguessed

/-- Not every text arrives as it stands: `007` becomes `7`. Nor are different texts always told
apart: both `1` and `01` become `1`. -/
theorem not_load_verbatim :
    (¬ ∀ (t : TextField) (s : Sources) (name v : String), s.IsOpenTo t.field →
        Text.lowercase name = t.field.variableName → v ≠ "" →
          ∃ settings, s.loadWith name v = .ok settings ∧ t.get settings = v) ∧
      ¬ ∀ (t : TextField) (s : Sources) (name v v' : String), s.IsOpenTo t.field →
        Text.lowercase name = t.field.variableName → v ≠ "" → v' ≠ "" → v ≠ v' →
          ∀ settings settings', s.loadWith name v = .ok settings →
            s.loadWith name v' = .ok settings' → t.get settings ≠ t.get settings' := by
  have hname : Text.lowercase "TIERLIMIT__STORE__KEY_PREFIX" = Field.keyPrefix.variableName := by
    decide +kernel
  have hload {v : String} := Sources.loadWith_bare .keyPrefix (v := v) hname
  constructor
  · intro halways
    have hseven : (Scalar.ofVariable "007").written = "7" := by decide +kernel
    obtain ⟨settings, hsettings, htext⟩ :=
      halways .keyPrefix .bare _ "007" (Sources.isOpenTo_bare _) hname (by decide)
    cases (hload (by decide)).symm.trans hsettings
    exact absurd (hseven.symm.trans htext) (by decide)
  · intro hapart
    have hsame : (Scalar.ofVariable "1").written = (Scalar.ofVariable "01").written := by
      decide +kernel
    exact hapart .keyPrefix .bare _ "1" "01" (Sources.isOpenTo_bare _) hname (by decide)
      (by decide) (by decide) _ _ (hload (by decide)) (hload (by decide)) hsame

end FixedWindow.Settings
