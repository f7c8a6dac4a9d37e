import FixedWindow.Proofs.Settings.Leaf

/-!
# The layer of a file

A file of settings is laid out plainly if its root has distinct lower-case names, and if its
sections are mappings of single values under such names. Such a file can be read unless one of its
numbers cannot, wherever the number stands. A name of the root may be a path, and then it can lead
into a section or ask for an item that cannot be there; as long as none does, the file gives to each
field what stands under the names of the section and the field.

## Main definitions

* `Scalar.ofLoose?`: what a single value of a file stands for.
* `Settings.HasNames`, `Settings.IsReadable`: values whose keys are names, and values that can be
  read.
* `Settings.IsLayer`: a file that is laid out plainly.
* `Settings.IsApart`: a file none of whose other names leads into a section.
* `Settings.IsInBounds`: a file none of whose names picks an item that cannot be there.
* `Settings.fileRoot?`: the root of the file that settings are loaded from.
* `Field.fromFile?`: the single value of a file for a field.

## Main results

* `Settings.succeedsIf_ofLoose`: values can be read unless one of their numbers cannot.
* `Settings.entries_of_fileRoot?`: when a file can be read, and what its entries are.
* `Settings.tame_layerRows`, `Settings.given?_layerRows`: what they give to a field.
-/

namespace FixedWindow.Settings

open Yaml (Loose)

/-! ### Single values -/

/-- Whether a value of a file is a single one. -/
def isSingle : Loose → Bool
  | .sequence _ | .mapping _ => false
  | .null | .bool _ | .integer _ | .real _ | .text _ => true

/-- What a single value of a file stands for. A number may be written so that it cannot be read. -/
def Scalar.ofLoose? : Loose → Option Scalar
  | .null => some .nothing
  | .bool b => some (.bool b)
  | .integer n => some (.integer n)
  | .text s => some (.text s)
  | .real written => (Binary64.read? written).map .float
  | .sequence _ | .mapping _ => none

/-- The value among layered settings for a single value of a file. -/
def singleValue (file : String) (v : Loose) : Value :=
  .scalar ((Scalar.ofLoose? v).getD .nothing) (some file)

theorem ofLoose_of_isSome {v : Loose} (h : (Scalar.ofLoose? v).isSome = true) (file : String) :
    Value.ofLoose file v = .ok (singleValue file v) := by
  cases v with
  | null | bool b | integer n | text s => rfl
  | real written =>
    obtain ⟨x, hx⟩ := Option.isSome_iff_exists.mp h
    obtain ⟨y, hy, rfl⟩ := Option.map_eq_some_iff.mp hx
    simp only [Value.ofLoose, singleValue, Scalar.ofLoose?, hy, Option.map_some, Option.getD_some]
  | sequence items | mapping entries => cases h

/-! ### Names -/

/-- The name that a key of a mapping is. -/
def keyName? : Loose → Option String
  | .text s => some s
  | .integer n => some (toString n)
  | _ => none

/-- The name of an entry of a mapping. -/
def entryName (e : Loose × Loose) : String := (keyName? e.1).getD ""

/-- Entries under distinct lower-case names. -/
structure IsNamed (entries : List (Loose × Loose)) : Prop where
  named : ∀ e ∈ entries, (keyName? e.1).isSome = true
  lower : ∀ e ∈ entries, Text.lowercase (entryName e) = entryName e
  distinct : (entries.map entryName).Nodup

/-- The value of the entry under a name. -/
def valueAt? (entries : List (Loose × Loose)) (name : String) : Option Loose :=
  (entries.find? fun e => entryName e = name).map Prod.snd

theorem mem_of_valueAt? {entries : List (Loose × Loose)} {name : String} {v : Loose}
    (h : valueAt? entries name = some v) : ∃ e ∈ entries, entryName e = name ∧ e.2 = v := by
  obtain ⟨e, he, rfl⟩ := Option.map_eq_some_iff.mp h
  have hname := List.find?_some he
  exact ⟨e, List.mem_of_find?_eq_some he, of_decide_eq_true hname, rfl⟩

theorem IsNamed.tail {e : Loose × Loose} {rest : List (Loose × Loose)} (h : IsNamed (e :: rest)) :
    IsNamed rest :=
  ⟨(List.forall_mem_cons.mp h.named).2, (List.forall_mem_cons.mp h.lower).2,
    (List.nodup_cons.mp h.distinct).2⟩

theorem setRow_of_not_mem {rows : List (String × Value)} {name : String}
    (h : name ∉ rows.map Prod.fst) (value : Value) :
    setRow rows name value = rows ++ [(name, value)] := by
  induction rows with
  | nil => rfl
  | cons row rest ih =>
    have hne : row.1 ≠ name := fun he => h (he ▸ List.mem_cons_self)
    rw [setRow, if_neg hne, ih fun hrest => h (List.mem_cons_of_mem _ hrest)]
    rfl

theorem rowsOfLoose_cons {e : Loose × Loose} (hname : (keyName? e.1).isSome = true) (file : String)
    (rows : List (String × Value)) (rest : List (Loose × Loose)) :
    rowsOfLoose file rows (e :: rest) =
      (Value.ofLoose file e.2).bind fun v =>
        rowsOfLoose file (setRow rows (entryName e) v) rest := by
  obtain ⟨key, value⟩ := e
  cases key with
  | text s | integer n => rw [rowsOfLoose]; rfl
  | null | bool b | real w | sequence items | mapping entries => cases hname

/-- The rows of entries under distinct names, behind the rows so far. -/
theorem rowsOfLoose_eq_ok {entries : List (Loose × Loose)} (hnamed : IsNamed entries)
    {file : String} {toValue : Loose → Value}
    (hvalues : ∀ e ∈ entries, Value.ofLoose file e.2 = .ok (toValue e.2))
    {rows : List (String × Value)} (hfresh : ∀ e ∈ entries, entryName e ∉ rows.map Prod.fst) :
    rowsOfLoose file rows entries =
      .ok (rows ++ entries.map fun e => (entryName e, toValue e.2)) := by
  induction entries generalizing rows with
  | nil => simp [rowsOfLoose]
  | cons e rest ih =>
    obtain ⟨hvalue, hothers⟩ := List.forall_mem_cons.mp hvalues
    obtain ⟨hnew, hfreshRest⟩ := List.forall_mem_cons.mp hfresh
    have hapart := (List.nodup_cons.mp hnamed.distinct).1
    -- names stay fresh, so that each row is put behind the others and replaces none
    have hbehind : ∀ e' ∈ rest,
        entryName e' ∉ (rows ++ [(entryName e, toValue e.2)]).map Prod.fst := by
      intro e' he' hmem
      rw [List.map_append, List.mem_append] at hmem
      rcases hmem with hold | hlast
      · exact hfreshRest e' he' hold
      · exact hapart (List.mem_map.mpr ⟨e', he', List.mem_singleton.mp hlast⟩)
    rw [rowsOfLoose_cons (List.forall_mem_cons.mp hnamed.named).1, hvalue]
    simp only [Except.bind]
    rw [setRow_of_not_mem hnew, ih hnamed.tail hothers hbehind, List.append_assoc]
    rfl

/-! ### Values that can be read -/

/-- All keys of the mappings in a value are names. -/
inductive HasNames : Loose → Prop
  | single {v : Loose} : isSingle v = true → HasNames v
  | sequence {items : List Loose} : (∀ item ∈ items, HasNames item) → HasNames (.sequence items)
  | mapping {entries : List (Loose × Loose)} : (∀ e ∈ entries, (keyName? e.1).isSome = true) →
      (∀ e ∈ entries, HasNames e.2) → HasNames (.mapping entries)

/-- All single values in a value can be read. -/
inductive IsReadable : Loose → Prop
  | single {v : Loose} : (Scalar.ofLoose? v).isSome = true → IsReadable v
  | sequence {items : List Loose} : (∀ item ∈ items, IsReadable item) →
      IsReadable (.sequence items)
  | mapping {entries : List (Loose × Loose)} : (∀ e ∈ entries, IsReadable e.2) →
      IsReadable (.mapping entries)

theorem isReadable_iff_of_isSingle {v : Loose} (hsingle : isSingle v = true) :
    IsReadable v ↔ (Scalar.ofLoose? v).isSome = true := by
  constructor
  · rintro (h | _ | _)
    · exact h
    · cases hsingle
    · cases hsingle
  · exact .single

theorem isReadable_sequence_iff {items : List Loose} :
    IsReadable (.sequence items) ↔ ∀ item ∈ items, IsReadable item := by
  constructor
  · rintro (h | h | _)
    · cases h
    · exact h
  · exact .sequence

theorem isReadable_mapping_iff {entries : List (Loose × Loose)} :
    IsReadable (.mapping entries) ↔ ∀ e ∈ entries, IsReadable e.2 := by
  constructor
  · rintro (h | _ | h)
    · cases h
    · exact h
  · exact .mapping

/-- An attempt succeeds if a condition holds, and reports a fault of the settings otherwise. -/
def SucceedsIf {α : Type} (condition : Prop) (attempt : Except LimitError α) : Prop :=
  (condition → ∃ value, attempt = .ok value) ∧
    (¬ condition → ∃ fault, attempt = .error (.config fault))

theorem SucceedsIf.bind {α β : Type} {condition condition' : Prop} {attempt : Except LimitError α}
    {next : α → Except LimitError β} (h : SucceedsIf condition attempt)
    (hnext : ∀ value, SucceedsIf condition' (next value)) :
    SucceedsIf (condition ∧ condition') (attempt >>= next) := by
  by_cases hc : condition
  · obtain ⟨value, hvalue⟩ := h.1 hc
    rw [hvalue]
    refine ⟨fun hboth => (hnext value).1 hboth.2, fun hnot => (hnext value).2 fun hc' => ?_⟩
    exact hnot ⟨hc, hc'⟩
  · obtain ⟨fault, hfault⟩ := h.2 hc
    exact ⟨fun hboth => absurd hboth.1 hc, fun _ => ⟨fault, by rw [hfault]; rfl⟩⟩

theorem SucceedsIf.map {α β : Type} {condition : Prop} {attempt : Except LimitError α}
    (h : SucceedsIf condition attempt) (f : α → β) : SucceedsIf condition (attempt.map f) :=
  ⟨fun hc => (h.1 hc).elim fun value hvalue => ⟨f value, by rw [hvalue]; rfl⟩,
    fun hc => (h.2 hc).imp fun _ hfault => by rw [hfault]; rfl⟩

theorem succeedsIf_ofLoose_of_isSingle {v : Loose} (hsingle : isSingle v = true) (file : String) :
    SucceedsIf ((Scalar.ofLoose? v).isSome = true) (Value.ofLoose file v) := by
  refine ⟨fun h => ⟨_, ofLoose_of_isSome h file⟩, fun h => ?_⟩
  cases v with
  | null | bool b | integer n | text s => exact absurd rfl h
  | real written =>
    have hnone : Binary64.read? written = none := by simpa [Scalar.ofLoose?] using h
    exact ⟨.unreadableFloat written file, by simp only [Value.ofLoose, hnone]⟩
  | sequence items | mapping entries => cases hsingle

theorem succeedsIf_itemsOfLoose {items : List Loose} {file : String}
    (hitems : ∀ item ∈ items, SucceedsIf (IsReadable item) (Value.ofLoose file item)) :
    SucceedsIf (∀ item ∈ items, IsReadable item) (itemsOfLoose file items) := by
  induction items with
  | nil => exact ⟨fun _ => ⟨[], rfl⟩, fun h => absurd (by simp) h⟩
  | cons item rest ih =>
    obtain ⟨hfirst, hrest⟩ := List.forall_mem_cons.mp hitems
    rw [itemsOfLoose, List.forall_mem_cons]
    exact hfirst.bind fun first => (ih hrest).map (first :: ·)

theorem succeedsIf_rowsOfLoose {entries : List (Loose × Loose)} {file : String}
    (hnames : ∀ e ∈ entries, (keyName? e.1).isSome = true)
    (hvalues : ∀ e ∈ entries, SucceedsIf (IsReadable e.2) (Value.ofLoose file e.2))
    (rows : List (String × Value)) :
    SucceedsIf (∀ e ∈ entries, IsReadable e.2) (rowsOfLoose file rows entries) := by
  induction entries generalizing rows with
  | nil => exact ⟨fun _ => ⟨rows, by rw [rowsOfLoose]⟩, fun h => absurd (by simp) h⟩
  | cons e rest ih =>
    obtain ⟨hname, hnamesRest⟩ := List.forall_mem_cons.mp hnames
    obtain ⟨hvalue, hvaluesRest⟩ := List.forall_mem_cons.mp hvalues
    rw [rowsOfLoose_cons hname, List.forall_mem_cons]
    exact hvalue.bind fun v => ih hnamesRest hvaluesRest _

/-- Values whose keys are names can be read unless one of their numbers cannot. -/
theorem succeedsIf_ofLoose {v : Loose} (hnames : HasNames v) (file : String) :
    SucceedsIf (IsReadable v) (Value.ofLoose file v) := by
  induction hnames with
  | single hsingle =>
    rw [isReadable_iff_of_isSingle hsingle]
    exact succeedsIf_ofLoose_of_isSingle hsingle file
  | sequence _ ih =>
    rw [isReadable_sequence_iff, Value.ofLoose]
    exact (succeedsIf_itemsOfLoose ih).map _
  | mapping hnamed _ ih =>
    rw [isReadable_mapping_iff, Value.ofLoose]
    exact (succeedsIf_rowsOfLoose hnamed ih []).map _

/-! ### Plain files -/

/-- A mapping of single values under distinct lower-case names. -/
structure IsPlainMapping (entries : List (Loose × Loose)) : Prop extends IsNamed entries where
  single : ∀ e ∈ entries, isSingle e.2 = true

/-- The entries of a file that is laid out plainly: they have distinct lower-case names, and the
sections are plain mappings. -/
structure IsLayer (root : List (Loose × Loose)) : Prop extends IsNamed root where
  values : ∀ e ∈ root, HasNames e.2
  sections : ∀ e ∈ root, ∀ f : Field, entryName e = f.sectionName →
    ∃ entries, e.2 = .mapping entries ∧ IsPlainMapping entries

/-- No entry of a file leads into a section but the section itself. -/
def IsApart (root : List (Loose × Loose)) : Prop :=
  ∀ e ∈ root, ∀ f : Field, headName (entryName e) = f.sectionName → entryName e = f.sectionName

/-- No name of a file picks an item that cannot be there. -/
def IsInBounds (root : List (Loose × Loose)) : Prop := ∀ e ∈ root, IsBounded (entryName e)

/-- The value among layered settings for a value of a file that can be read. -/
def layerValue (file : String) (v : Loose) : Value :=
  match Value.ofLoose file v with
  | .ok value => value
  | .error _ => .absent

/-- The rows of layered settings for entries of a file. -/
def layerRows (file : String) (root : List (Loose × Loose)) : List (String × Value) :=
  root.map fun e => (entryName e, layerValue file e.2)

theorem layerValue_of_isPlainMapping {entries : List (Loose × Loose)}
    (hplain : IsPlainMapping entries) (hread : IsReadable (.mapping entries)) (file : String) :
    layerValue file (.mapping entries) =
      .table (entries.map fun e => (entryName e, singleValue file e.2)) (some file) := by
  have hvalues : ∀ e ∈ entries, Value.ofLoose file e.2 = .ok (singleValue file e.2) :=
    fun e he => ofLoose_of_isSome ((isReadable_iff_of_isSingle (hplain.single e he)).mp
      (isReadable_mapping_iff.mp hread e he)) file
  rw [layerValue, Value.ofLoose,
    rowsOfLoose_eq_ok hplain.toIsNamed hvalues fun _ _ => List.not_mem_nil]
  rfl

/-- A plain file is read as it is written, unless one of its numbers cannot be read. -/
theorem ofLoose_of_isLayer {root : List (Loose × Loose)} (hlayer : IsLayer root) (file : String) :
    (IsReadable (.mapping root) →
        Value.ofLoose file (.mapping root) = .ok (.table (layerRows file root) (some file))) ∧
      (¬ IsReadable (.mapping root) →
        ∃ fault, Value.ofLoose file (.mapping root) = .error (.config fault)) := by
  refine ⟨fun hread => ?_,
    (succeedsIf_ofLoose (.mapping hlayer.named hlayer.values) file).2⟩
  have hvalues : ∀ e ∈ root, Value.ofLoose file e.2 = .ok (layerValue file e.2) := by
    intro e he
    obtain ⟨value, hvalue⟩ := (succeedsIf_ofLoose (hlayer.values e he) file).1
      (isReadable_mapping_iff.mp hread e he)
    rw [layerValue, hvalue]
  rw [Value.ofLoose, rowsOfLoose_eq_ok hlayer.toIsNamed hvalues fun _ _ => List.not_mem_nil]
  rfl

/-! ### The file that settings are loaded from -/

/-- The root of a text of settings. A text without a document has no entries. -/
def documentRoot? (content : String) : Option (List (Loose × Loose)) :=
  match Loose.ofText? content with
  | some [] => some []
  | some [.mapping root] => some root
  | _ => none

/-- The root of the file that settings are loaded from, without entries if there is no path. -/
def fileRoot? (files : String → Option String) (path : Option String) :
    Option (List (Loose × Loose)) :=
  path.elim (some []) fun name => ((fileNames name).findSome? files).bind documentRoot?

theorem isReadable_nil : IsReadable (.mapping []) := .mapping fun _ he => absurd he List.not_mem_nil

theorem fileEntries_of_documentRoot? {content : String} {root : List (Loose × Loose)}
    (hroot : documentRoot? content = some root) (hlayer : IsLayer root) (file : String) :
    (IsReadable (.mapping root) → fileEntries file content = .ok (layerRows file root)) ∧
      (¬ IsReadable (.mapping root) →
        ∃ fault, fileEntries file content = .error (.config fault)) := by
  unfold documentRoot? at hroot
  unfold fileEntries
  split at hroot
  · rename_i hnone
    cases hroot
    rw [hnone]
    exact ⟨fun _ => rfl, fun h => absurd isReadable_nil h⟩
  · rename_i hmapping
    cases hroot
    rw [hmapping]
    obtain ⟨hread, hunread⟩ := ofLoose_of_isLayer hlayer file
    refine ⟨fun h => by simp only [hread h]; rfl, fun h => ?_⟩
    obtain ⟨fault, hfault⟩ := hunread h
    exact ⟨fault, by simp only [hfault]; rfl⟩
  · cases hroot

/-- The entries of the file that settings are loaded from are those that it is written with, unless
one of its numbers cannot be read. -/
theorem entries_of_fileRoot? {files : String → Option String} {path : Option String}
    {root : List (Loose × Loose)} (hfile : fileRoot? files path = some root)
    (hlayer : IsLayer root) :
    ∃ file, (IsReadable (.mapping root) →
        path.elim (.ok []) (entriesOfFile files) = .ok (layerRows file root)) ∧
      (¬ IsReadable (.mapping root) →
        ∃ fault, path.elim (.ok []) (entriesOfFile files) = .error (.config fault)) := by
  cases path with
  | none =>
    cases hfile
    exact ⟨"", fun _ => rfl, fun h => absurd isReadable_nil h⟩
  | some name =>
    simp only [Option.elim, entriesOfFile]
    obtain ⟨content, hcontent, hroot⟩ := Option.bind_eq_some_iff.mp hfile
    obtain ⟨n, hn⟩ : ∃ n, ((fileNames name).findSome? fun n =>
        (files n).map fun content => (n, content)) = some (n, content) := by
      obtain ⟨before, n, after, hsplit, hfound, hbefore⟩ := List.findSome?_eq_some_iff.mp hcontent
      refine ⟨n, List.findSome?_eq_some_iff.mpr ⟨before, n, after, hsplit, ?_, ?_⟩⟩
      · rw [hfound]
        rfl
      · intro m hm
        rw [hbefore m hm]
        rfl
    rw [hn]
    exact ⟨plainFileName n, fileEntries_of_documentRoot? hroot hlayer _⟩

/-! ### What a file gives to a field -/

theorem Field.keyPath_sectionName (f : Field) : keyPath f.sectionName = [.field f.sectionName] := by
  cases f <;> decide

theorem Field.lowercase_sectionName (f : Field) :
    Text.lowercase f.sectionName = f.sectionName := by
  cases f <;> decide +kernel

/-- The single value of a file for a field. -/
def Field.fromFile? (f : Field) (root : List (Loose × Loose)) : Option Loose :=
  (valueAt? root f.sectionName).bind fun
    | .mapping entries => valueAt? entries f.name
    | _ => none

theorem lookup_map_entryName (entries : List (Loose × Loose)) (toValue : Loose → Value)
    (name : String) :
    (entries.map fun e => (entryName e, toValue e.2)).lookup name =
      (valueAt? entries name).map toValue := by
  induction entries with
  | nil => rfl
  | cons e rest ih =>
    rw [List.map_cons, List.lookup_cons, ih, valueAt?, valueAt?, List.find?_cons]
    by_cases h : entryName e = name
    · simp [h]
    · have hbeq : (name == entryName e) = false := by simpa using Ne.symm h
      simp [h, hbeq]

theorem findSome?_congr {α β : Type} {g g' : α → Option β} {l : List α}
    (h : ∀ a ∈ l, g a = g' a) : l.findSome? g = l.findSome? g' := by
  induction l with
  | nil => rfl
  | cons a rest ih =>
    obtain ⟨hfirst, hrest⟩ := List.forall_mem_cons.mp h
    rw [List.findSome?_cons, List.findSome?_cons, hfirst, ih hrest]

/-- Where names are distinct, the last entry under a name is the one that is found. -/
theorem findSome?_reverse_of_distinct {α : Type} {entries : List (Loose × Loose)}
    (hdistinct : (entries.map entryName).Nodup) (name : String) (next : Loose → Option α) :
    (entries.reverse.findSome? fun e => if entryName e = name then next e.2 else none) =
      (valueAt? entries name).bind next := by
  induction entries with
  | nil => rfl
  | cons e rest ih =>
    obtain ⟨hapart, hothers⟩ := List.nodup_cons.mp hdistinct
    rw [List.reverse_cons, List.findSome?_append, ih hothers, List.findSome?_singleton, valueAt?,
      valueAt?, List.find?_cons]
    by_cases h : entryName e = name
    · have hrest : (rest.find? fun e => entryName e = name) = none := by
        rw [List.find?_eq_none]
        intro e' he' hsame
        exact hapart (List.mem_map.mpr ⟨e', he', (of_decide_eq_true hsame).trans h.symm⟩)
      simp [h, hrest]
    · simp [h]

section

variable {root : List (Loose × Loose)} (hlayer : IsLayer root)
  (hread : IsReadable (.mapping root)) (file : String) (f : Field)
include hlayer hread

theorem layerValue_of_sectionName {e : Loose × Loose} (he : e ∈ root)
    (hname : entryName e = f.sectionName) :
    ∃ entries, e.2 = .mapping entries ∧ IsPlainMapping entries ∧ layerValue file e.2 =
      .table (entries.map fun e => (entryName e, singleValue file e.2)) (some file) := by
  obtain ⟨entries, hvalue, hplain⟩ := hlayer.sections e he f hname
  have hsection := isReadable_mapping_iff.mp hread e he
  rw [hvalue] at hsection ⊢
  exact ⟨entries, rfl, hplain, layerValue_of_isPlainMapping hplain hsection file⟩

theorem tame_layerRows (hapart : IsApart root) :
    ∀ row ∈ layerRows file root, Tame f.sectionName row := by
  intro row hrow
  obtain ⟨e, he, rfl⟩ := List.mem_map.mp hrow
  by_cases hname : entryName e = f.sectionName
  · obtain ⟨entries, -, hplain, htable⟩ := layerValue_of_sectionName hlayer hread file f he hname
    rw [hname, htable]
    refine .table f.keyPath_sectionName ?_ ?_
    · intro row hrow
      obtain ⟨e', he', rfl⟩ := List.mem_map.mp hrow
      exact ⟨hplain.lower e' he', _, _, rfl⟩
    · rw [List.map_map]
      exact hplain.distinct
  · exact .elsewhere fun hhead => hname (hapart e he f hhead)

/-- An entry of a file gives a value to a field only under the name of its section. -/
theorem given?_layerRow (hapart : IsApart root) {e : Loose × Loose} (he : e ∈ root) :
    given? f.sectionName f.name (entryName e, layerValue file e.2) =
      (if entryName e = f.sectionName then
        match e.2 with
        | .mapping entries => valueAt? entries f.name
        | _ => none
      else none).map (singleValue file) := by
  by_cases hname : entryName e = f.sectionName
  · obtain ⟨entries, hvalue, -, htable⟩ := layerValue_of_sectionName hlayer hread file f he hname
    rw [if_pos hname, htable, hvalue, hname, given?]
    simp only [f.keyPath_sectionName, if_true]
    exact lookup_map_entryName entries (singleValue file) f.name
  · rw [if_neg hname]
    exact given?_of_headName_ne f.lowercase_sectionName f.name
      fun hhead => hname (hapart e he f hhead)

/-- A plain file gives to a field what stands under the names of its section and the field. -/
theorem given?_layerRows (hapart : IsApart root) :
    (layerRows file root).reverse.findSome? (given? f.sectionName f.name) =
      (f.fromFile? root).map (singleValue file) := by
  rw [Field.fromFile?, ← findSome?_reverse_of_distinct hlayer.distinct, List.map_findSome?,
    layerRows, ← List.map_reverse, List.findSome?_map]
  refine findSome?_congr fun e he => ?_
  exact given?_layerRow hlayer hread file f hapart (List.mem_reverse.mp he)

end

end FixedWindow.Settings
