import FixedWindow.Proofs.Settings.EnvironmentLayer
import FixedWindow.Proofs.Settings.Loading

/-!
# Settings are layered field by field

Each field of the settings is decided on its own: by its variable if there is one, or else by what
stands for it in the file, or else by its default. Settings are loaded if what decides each field
can be converted to its type, and if they meet all conditions. There is one more reason for them not
to be loaded: the file as a whole has to be read, and a number in it may be written so that it
cannot be, even where it decides nothing. All this presumes that no other name of the file is a path
into a section or to an item that cannot be there. Such an item does not merely keep the settings
from being loaded: it aborts the attempt.

## Main definitions

* `Field.effective?`: what a field comes to.

## Main results

* `Settings.effective?_append`: a variable for a field decides it and changes no other.
* `Settings.leafAt?_merge`: the value that decides a field.
* `Settings.load_eq_ok_iff`: which settings are loaded.
* `Settings.load_fieldwise`: which settings are loaded, and what becomes of the others.
* `Settings.not_load_fieldwise`: neither reading the whole file, nor keeping its other names apart,
  nor keeping them in bounds can be left out.
-/

namespace FixedWindow.Settings

open Yaml (Loose)

/-- What a field comes to: what its variable means, or else what stands for it in the file, or else
its default. -/
def Field.effective? (f : Field) (root : List (Loose × Loose))
    (environment : List (String × String)) : Option f.Content :=
  match f.fromEnvironment? environment, f.fromFile? root with
  | some x, _ => f.meaning? x
  | none, some v => (Scalar.ofLoose? v).bind f.meaning?
  | none, none => some f.default

theorem Field.variableName_inj {f g : Field} (h : f.variableName = g.variableName) : f = g := by
  obtain ⟨hsection, hname⟩ := plainNames_inj f.isPlainSection_sectionName f.isPlainName_name
    g.isPlainSection_sectionName g.isPlainName_name h
  revert hsection hname
  cases f <;> cases g <;> decide

/-- A further variable for a field decides the field, whatever the file says, and changes no
other. -/
theorem effective?_append (root : List (Loose × Loose)) (environment : List (String × String))
    {variableName : String} (value : String) {g : Field}
    (hg : Text.lowercase variableName = g.variableName) (f : Field) :
    f.effective? root (environment ++ [(variableName, value)]) =
      if f = g then f.meaning? (.ofVariable value) else f.effective? root environment := by
  by_cases h : f = g
  · subst h
    simp [Field.effective?, Field.fromEnvironment?, hg]
  · have hother : g.variableName ≠ f.variableName := fun hsame =>
      h (Field.variableName_inj hsame.symm)
    simp [Field.effective?, Field.fromEnvironment?, hg, hother, h]

/-! ### The value that decides a field -/

section

variable {root : List (Loose × Loose)} {environment : List (String × String)}
  (hlayer : IsLayer root) (hapart : IsApart root) (hread : IsReadable (.mapping root))
  (hfieldwise : IsFieldwise environment) (file : String) (f : Field)
include hlayer hread

theorem isSome_of_fromFile? {v : Loose} (hv : f.fromFile? root = some v) :
    (Scalar.ofLoose? v).isSome = true := by
  obtain ⟨v', hsection, hvalue⟩ := Option.bind_eq_some_iff.mp hv
  obtain ⟨e, he, hname, rfl⟩ := mem_of_valueAt? hsection
  obtain ⟨entries, hentries, hplain⟩ := hlayer.sections e he f hname
  have hreadSection := isReadable_mapping_iff.mp hread e he
  rw [hentries] at hvalue hreadSection
  obtain ⟨e', he', -, rfl⟩ := mem_of_valueAt? hvalue
  exact (isReadable_iff_of_isSingle (hplain.single e' he')).mp
    (isReadable_mapping_iff.mp hreadSection e' he')

include hapart hfieldwise

theorem tame_layers :
    ∀ entry ∈ layerRows file root ++ environmentEntries environment, Tame f.sectionName entry := by
  intro entry hentry
  rcases List.mem_append.mp hentry with hrow | hvariable
  · exact tame_layerRows hlayer hread file f hapart entry hrow
  · exact tame_environmentEntries hfieldwise f entry hvariable

variable {merged : Value}
  (hmerged : merge (layerRows file root ++ environmentEntries environment) = .ok merged)
include hmerged

/-- The value that decides a field is that of its variable, or else what stands for it in the
file. -/
theorem leafAt?_merge :
    leafAt? merged f.sectionName f.name =
      ((f.fromEnvironment? environment).map fun x => .scalar x (some environmentOrigin)).or
        ((f.fromFile? root).map (singleValue file)) := by
  have htame := tame_layers hlayer hapart hread hfieldwise file f
  -- the last entry decides, and those of the environment come last
  rw [(section_merge f.lowercase_sectionName htame hmerged).2, List.reverse_append,
    List.findSome?_append, given?_environmentEntries hfieldwise,
    given?_layerRows hlayer hread file f hapart]

theorem readFrom_merge_eq_ok_iff (content : f.Content) :
    f.readFrom merged = .ok content ↔ f.effective? root environment = some content := by
  rw [Field.readFrom, leafAt?_merge hlayer hapart hread hfieldwise file f hmerged,
    Field.effective?]
  cases f.fromEnvironment? environment with
  | some x => exact f.convert_eq_ok_iff _ x _ content
  | none =>
    cases hv : f.fromFile? root with
    | none => simp
    | some v =>
      obtain ⟨x, hx⟩ := Option.isSome_iff_exists.mp (isSome_of_fromFile? hlayer hread f hv)
      simp only [Option.map_none, Option.none_or, Option.map_some, singleValue, hx,
        Option.getD_some, Option.bind_some]
      exact f.convert_eq_ok_iff _ x _ content

theorem ofLayers_merge_eq_ok_iff (settings : Settings) :
    ofLayers merged = .ok settings ↔
      ∀ f : Field, f.effective? root environment = some (f.get settings) := by
  have htables (f : Field) := (section_merge f.lowercase_sectionName
    (tame_layers hlayer hapart hread hfieldwise file f) hmerged).1
  rw [ofLayers_eq_ok_iff htables]
  exact forall_congr' fun f =>
    readFrom_merge_eq_ok_iff hlayer hapart hread hfieldwise file f hmerged (f.get settings)

end

/-- The layers can be merged as long as no name of the file picks an item that cannot be there. -/
theorem exists_merge_layers {root : List (Loose × Loose)} {environment : List (String × String)}
    (hbounds : IsInBounds root) (hfieldwise : IsFieldwise environment) (file : String) :
    ∃ merged, merge (layerRows file root ++ environmentEntries environment) = .ok merged := by
  refine exists_merge fun entry hentry => ?_
  rcases List.mem_append.mp hentry with hrow | hvariable
  · obtain ⟨e, he, rfl⟩ := List.mem_map.mp hrow
    exact hbounds e he
  · exact isBounded_environmentEntries hfieldwise entry hvariable

/-! ### Loading -/

section

variable {files : String → Option String} {path : Option String}
  {root : List (Loose × Loose)} {environment : List (String × String)}
  (hfile : fileRoot? files path = some root) (hlayer : IsLayer root)
include hfile hlayer

theorem load_of_not_isReadable (hunread : ¬ IsReadable (.mapping root))
    (environment : List (String × String)) :
    ∃ fault, (load files path environment).answer = .error (.config fault) := by
  obtain ⟨file, -, hfault⟩ := entries_of_fileRoot? hfile hlayer
  obtain ⟨fault, hentries⟩ := hfault hunread
  exact ⟨fault, by simp only [load, hentries]; rfl⟩

variable (hbounds : IsInBounds root) (hfieldwise : IsFieldwise environment)
include hbounds hfieldwise

/-- Settings are loaded if the file can be read, if each field comes to what they say, and if they
meet all conditions. -/
theorem load_eq_ok_iff (hapart : IsApart root) (settings : Settings) :
    (load files path environment).answer = .ok settings ↔
      IsReadable (.mapping root) ∧
        (∀ f : Field, f.effective? root environment = some (f.get settings)) ∧
          ∀ c : Condition, c.holds settings = true := by
  by_cases hread : IsReadable (.mapping root)
  · obtain ⟨file, hrows, -⟩ := entries_of_fileRoot? hfile hlayer
    obtain ⟨merged, hmerged⟩ := exists_merge_layers hbounds hfieldwise file
    simp only [(load_of_entries environment (hrows hread)).1, hmerged, Except.ok.injEq,
      exists_eq_left',
      ofLayers_merge_eq_ok_iff hlayer hapart hread hfieldwise file hmerged]
    exact (and_iff_right hread).symm
  · obtain ⟨fault, hanswer⟩ := load_of_not_isReadable hfile hlayer hread environment
    rw [hanswer]
    constructor
    · intro h
      cases h
    · intro h
      exact absurd h.1 hread

theorem config_of_load_eq_error {error : LimitError}
    (h : (load files path environment).answer = .error error) : ∃ fault, error = .config fault := by
  obtain ⟨file, hrows, hfault⟩ := entries_of_fileRoot? hfile hlayer
  by_cases hread : IsReadable (.mapping root)
  · obtain ⟨merged, hmerged⟩ := exists_merge_layers hbounds hfieldwise file
    refine ((load_of_entries environment (hrows hread)).2 error h).resolve_right ?_
    rintro ⟨why, haborted, -⟩
    rw [hmerged] at haborted
    cases haborted
  · obtain ⟨fault, hanswer⟩ := load_of_not_isReadable hfile hlayer hread environment
    exact ⟨fault, Except.error.inj (h.symm.trans hanswer)⟩

end

/-! ### Single files -/

theorem isLayer_store {entries : List (Loose × Loose)} (hplain : IsPlainMapping entries) :
    IsLayer [(.text "store", .mapping entries)] where
  named := by simp [keyName?]
  lower := by
    simp only [List.mem_singleton, forall_eq]
    exact Field.backend.lowercase_sectionName
  distinct := by simp
  values := by
    simp only [List.mem_singleton, forall_eq]
    exact .mapping hplain.named fun e he => .single (hplain.single e he)
  sections := by
    simp only [List.mem_singleton, forall_eq]
    exact fun _ _ => ⟨entries, rfl, hplain⟩

theorem isApart_store (entries : List (Loose × Loose)) :
    IsApart [(.text "store", .mapping entries)] := by
  simp only [IsApart, List.mem_singleton, forall_eq]
  intro f h
  rw [← h]
  exact (headName_of_keyPath Field.backend.keyPath_sectionName).symm

theorem isInBounds_store (entries : List (Loose × Loose)) :
    IsInBounds [(.text "store", .mapping entries)] := by
  simp only [IsInBounds, List.mem_singleton, forall_eq]
  intro i hi
  have hpath : keyPath "store" = [.field "store"] := Field.backend.keyPath_sectionName
  simp [entryName, keyName?, hpath] at hi

/-- A file with a single value under a name that is not one of a section is laid out plainly. -/
theorem isLayer_single {name : String} {v : Loose} (hlower : Text.lowercase name = name)
    (hapart : ∀ f : Field, name ≠ f.sectionName) (hsingle : isSingle v = true) :
    IsLayer [(.text name, v)] where
  named := by simp [keyName?]
  lower := by
    simp only [List.mem_singleton, forall_eq]
    exact hlower
  distinct := by simp
  values := by
    simp only [List.mem_singleton, forall_eq]
    exact .single hsingle
  sections := by
    simp only [List.mem_singleton, forall_eq]
    exact fun f hname => absurd hname (hapart f)

theorem isFieldwise_of_variableName {environment : List (String × String)}
    (h : ∀ v ∈ environment, ∃ f : Field, Text.lowercase v.1 = f.variableName) :
    IsFieldwise environment := by
  intro v hv _
  obtain ⟨f, hf⟩ := h v hv
  exact ⟨f.sectionName, f.name, hf, f.isPlainSection_sectionName, f.isPlainName_name⟩

theorem fileRoot?_of_text (text name : String) :
    fileRoot? (fun _ => some text) (some name) = documentRoot? text := by
  simp [fileRoot?, fileNames]

/-- A store that does not exist. -/
def strayStore : List (Loose × Loose) :=
  [(.text "backend", .text "sql"), (.text "pool_size", .integer 7)]

theorem documentRoot?_strayStore :
    documentRoot? "store:\n  backend: sql\n  pool_size: 7\n" =
      some [(.text "store", .mapping strayStore)] := by
  decide +kernel

theorem isPlainMapping_strayStore : IsPlainMapping strayStore where
  named := by simp [strayStore, keyName?]
  lower := by
    simp only [strayStore, List.mem_cons, List.not_mem_nil, or_false, forall_eq_or_imp, forall_eq]
    exact ⟨Field.backend.isPlainName_name.lower, Field.poolSize.isPlainName_name.lower⟩
  distinct := by decide
  single := by simp [strayStore, isSingle]

/-- The size of a pool written as a number that cannot be read. -/
def endlessPool : List (Loose × Loose) := [(.text "pool_size", .real ".inf")]

theorem documentRoot?_endlessPool :
    documentRoot? "store:\n  pool_size: .inf\n" =
      some [(.text "store", .mapping endlessPool)] := by
  decide +kernel

theorem isPlainMapping_endlessPool : IsPlainMapping endlessPool where
  named := by simp [endlessPool, keyName?]
  lower := by
    simp only [endlessPool, List.mem_singleton, forall_eq]
    exact Field.poolSize.isPlainName_name.lower
  distinct := by decide
  single := by simp [endlessPool, isSingle]

theorem not_isReadable_endlessPool :
    ¬ IsReadable (.mapping [(.text "store", .mapping endlessPool)]) := by
  simp only [isReadable_mapping_iff, endlessPool, List.mem_singleton, forall_eq]
  rw [isReadable_iff_of_isSingle rfl]
  decide

/-- A single value under a name that is a path into the store. -/
def pathRoot : List (Loose × Loose) := [(.text "store.pool_size", .integer 7)]

theorem documentRoot?_pathRoot : documentRoot? "store.pool_size: 7\n" = some pathRoot := by
  decide +kernel

theorem isLayer_pathRoot : IsLayer pathRoot :=
  isLayer_single rfl (fun f => by cases f <;> decide) rfl

theorem keyPath_pathRoot : keyPath "store.pool_size" = [.field "store", .field "pool_size"] := by
  decide

theorem isInBounds_pathRoot : IsInBounds pathRoot := by
  simp only [IsInBounds, pathRoot, List.mem_singleton, forall_eq]
  intro i hi
  simp [entryName, keyName?, keyPath_pathRoot] at hi

theorem merge_pathRoot (file : String) :
    merge (layerRows file pathRoot) =
      .ok (.table [("store", .table [("pool_size", .scalar (.integer 7) (some file))] none)]
        none) := by
  have hsection : Text.lowercase "store" = "store" := Field.backend.lowercase_sectionName
  have hname : Text.lowercase "pool_size" = "pool_size" := Field.poolSize.isPlainName_name.lower
  simp only [merge, layerRows, pathRoot, List.map_cons, List.map_nil, List.foldlM_cons,
    List.foldlM_nil, layerValue, Value.ofLoose, entryName, keyName?, Option.getD_some, Value.put,
    keyPath_pathRoot, List.getLast?_cons_cons, List.getLast?_singleton, List.dropLast_cons_cons,
    List.dropLast_singleton, Value.modifyAt, Value.putStep, mergeField, hsection, hname]
  rfl

theorem isReadable_pathRoot : IsReadable (.mapping pathRoot) := by
  simp only [isReadable_mapping_iff, pathRoot, List.mem_singleton, forall_eq]
  exact .single rfl

theorem load_pathRoot :
    (load (fun _ => some "store.pool_size: 7\n") (some "config.yaml") []).answer =
      .ok { store := { poolSize := 7 } } := by
  obtain ⟨file, hrows, -⟩ := entries_of_fileRoot?
    ((fileRoot?_of_text _ "config.yaml").trans documentRoot?_pathRoot) isLayer_pathRoot
  have hmerged : merge (layerRows file pathRoot ++ environmentEntries []) =
      merge (layerRows file pathRoot) := congrArg merge (List.append_nil _)
  rw [(load_of_entries [] (hrows isReadable_pathRoot)).1, hmerged, merge_pathRoot]
  exact ⟨_, rfl, rfl, fun c => by cases c <;> decide⟩

/-- A single value under a name that picks the last item of a list that has none. -/
def itemRoot : List (Loose × Loose) := [(.text "x[-1]", .integer 5)]

theorem documentRoot?_itemRoot : documentRoot? "x[-1]: 5\n" = some itemRoot := by
  decide +kernel

theorem isLayer_itemRoot : IsLayer itemRoot :=
  isLayer_single rfl (fun f => by cases f <;> decide) rfl

theorem keyPath_itemRoot : keyPath "x[-1]" = [.field "x", .item (-1)] := by
  decide

theorem isApart_itemRoot : IsApart itemRoot := by
  simp only [IsApart, itemRoot, List.mem_singleton, forall_eq]
  intro f hhead
  rw [show entryName (.text "x[-1]", .integer 5) = "x[-1]" from rfl,
    headName_of_keyPath keyPath_itemRoot] at hhead
  revert hhead
  cases f <;> decide

theorem isReadable_itemRoot : IsReadable (.mapping itemRoot) := by
  simp only [isReadable_mapping_iff, itemRoot, List.mem_singleton, forall_eq]
  exact .single rfl

theorem merge_itemRoot (file : String) : merge (layerRows file itemRoot) = .error .belowZero := by
  simp only [merge, layerRows, itemRoot, List.map_cons, List.map_nil, List.foldlM_cons,
    List.foldlM_nil, entryName, keyName?, Option.getD_some, Value.put, keyPath_itemRoot,
    List.getLast?_cons_cons, List.getLast?_singleton, List.dropLast_cons_cons,
    List.dropLast_singleton, Value.modifyAt]
  rfl

theorem load_itemRoot :
    (load (fun _ => some "x[-1]: 5\n") (some "config.yaml") []).answer =
      .error (.abort .belowZero) := by
  obtain ⟨file, hrows, -⟩ := entries_of_fileRoot?
    ((fileRoot?_of_text _ "config.yaml").trans documentRoot?_itemRoot) isLayer_itemRoot
  have hmerged : merge (layerRows file itemRoot ++ environmentEntries []) = .error .belowZero :=
    (congrArg merge (List.append_nil _)).trans (merge_itemRoot file)
  simp only [load, hrows isReadable_itemRoot, bind, Except.bind, hmerged]
  rfl

/-! ### Field by field -/

end FixedWindow.Settings
