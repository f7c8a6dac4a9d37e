import FixedWindow.Proofs.Settings.Field

/-!
# Merging layers leaf by leaf

Entries of settings are merged one after the other. With regard to a section an entry does one of
three things: it gives a table of single values under the name of the section, it gives a single
value under a path of two names into the section, or its key leads somewhere else (`Tame`). Such an
entry changes the leaves of the section that it gives and no others, so that of several entries the
last one that gives a leaf decides it. Merging goes through as long as every key that picks an item
of a list picks one that can be there (`IsBounded`).

## Main definitions

* `Settings.headName`: the name through which a key leads first.
* `Settings.IsBounded`: a key that picks no item that cannot be there.
* `Value.setLeaf`: values with a leaf of a section replaced.
* `Settings.given?`: the value that an entry gives to a leaf.
* `Settings.Tame`: what an entry may do to a section.

## Main results

* `Settings.exists_put`, `Settings.exists_merge`: when entries can be merged.
* `Settings.section_put`: what one entry does to a section.
* `Settings.section_merge`: the last entry that gives a leaf decides it.
-/

namespace FixedWindow.Settings

/-! ### Keys -/

theorem exists_pathSteps (read cs : List Char) {steps : List KeyStep}
    (h : pathSteps? (.name read) cs = some steps) : ∃ name rest, steps = .field name :: rest := by
  induction cs generalizing read with
  | nil =>
    unfold pathSteps? at h
    split at h
    · cases h
    · cases h
      exact ⟨_, _, rfl⟩
  | cons c rest ih =>
    unfold pathSteps? at h
    split at h
    · exact ih _ h
    · split at h
      · cases h
      · split at h
        · obtain ⟨_, -, rfl⟩ := Option.map_eq_some_iff.mp h
          exact ⟨_, _, rfl⟩
        · split at h
          · obtain ⟨_, -, rfl⟩ := Option.map_eq_some_iff.mp h
            exact ⟨_, _, rfl⟩
          · cases h

theorem exists_keyPath (key : String) : ∃ name rest, keyPath key = .field name :: rest := by
  unfold keyPath
  cases h : pathSteps? (.name []) key.toList with
  | none => exact ⟨_, _, rfl⟩
  | some steps => exact exists_pathSteps [] key.toList h

/-- The name, in lower case, through which a key leads first. -/
def headName (key : String) : String :=
  match keyPath key with
  | .field name :: _ => Text.lowercase name
  | _ => key

theorem headName_of_keyPath {key name : String} {rest : List KeyStep}
    (h : keyPath key = .field name :: rest) : headName key = Text.lowercase name := by
  rw [headName, h]

/-- An item that a list can have, counted from its front. -/
def IsItem (i : Int) : Prop := 0 ≤ i ∧ i.toNat < maxItems

/-- A key on whose path every item is one that a list can have, counted from its front. -/
def IsBounded (key : String) : Prop := ∀ i, .item i ∈ keyPath key → IsItem i

/-! ### What an entry gives -/

/-- The value that an entry gives to a leaf of a section. -/
def given? (sectionName name : String) (entry : String × Value) : Option Value :=
  match keyPath entry.1, entry.2 with
  | [.field s], .table rows _ => if s = sectionName then rows.lookup name else none
  | [.field s, .field n], v => if s = sectionName ∧ n = name then some v else none
  | _, _ => none

/-- What an entry may do to a section: give it rows of single values, give it a single value, or
leave it alone. -/
inductive Tame (sectionName : String) : String × Value → Prop
  | table {key : String} {rows : List (String × Value)} {origin : Option String} :
      keyPath key = [.field sectionName] →
      (∀ row ∈ rows, Text.lowercase row.1 = row.1 ∧ ∃ x origin, row.2 = .scalar x origin) →
      (rows.map Prod.fst).Nodup → Tame sectionName (key, .table rows origin)
  | leaf {key name : String} {x : Scalar} {origin : Option String} :
      keyPath key = [.field sectionName, .field name] → Text.lowercase name = name →
      Tame sectionName (key, .scalar x origin)
  | elsewhere {key : String} {value : Value} :
      headName key ≠ sectionName → Tame sectionName (key, value)

/-- A key that leads elsewhere gives nothing to a section. -/
theorem given?_of_headName_ne {sectionName : String}
    (hlower : Text.lowercase sectionName = sectionName) (name : String) {key : String}
    {value : Value} (h : headName key ≠ sectionName) :
    given? sectionName name (key, value) = none := by
  obtain ⟨first, rest, hpath⟩ := exists_keyPath key
  have hfirst : first ≠ sectionName := fun he => h (by rw [headName_of_keyPath hpath, he, hlower])
  unfold given?
  simp only [hpath]
  split
  · rename_i hsteps
    cases hsteps
    exact if_neg hfirst
  · rename_i hsteps
    cases hsteps
    exact if_neg fun he => hfirst he.1
  · rfl

/-! ### One entry -/

@[simp] theorem Value.rows_withRows (v : Value) (rows : List (String × Value)) :
    (v.withRows rows).rows = rows := by
  cases v <;> rfl

theorem Value.isTable_withRows (v : Value) (rows : List (String × Value)) :
    (v.withRows rows).IsTable := by
  cases v with
  | table _ origin => exact ⟨rows, origin, rfl⟩
  | scalar | list => exact ⟨rows, none, rfl⟩

theorem mergeField_eq_setRow (rows : List (String × Value)) (name : String) (value : Value) :
    ∃ merged, mergeField rows name value = setRow rows (Text.lowercase name) merged := by
  cases value with
  | scalar x origin => exact ⟨_, by rw [mergeField]⟩
  | list items origin => exact ⟨_, by rw [mergeField]⟩
  | table incoming origin => exact ⟨_, by rw [mergeField]⟩

/-- Whatever is put under a key, only the name through which it leads first changes. -/
theorem put_eq_setRow {root root' : Value} {key : String} {value : Value}
    (h : root.put key value = .ok root') :
    ∃ changed, root' = root.withRows (setRow root.rows (headName key) changed) := by
  obtain ⟨first, rest, hpath⟩ := exists_keyPath key
  rw [headName_of_keyPath hpath]
  rw [Value.put, hpath] at h
  cases rest with
  | nil =>
    obtain ⟨merged, hmerged⟩ := mergeField_eq_setRow root.rows first value
    cases h
    exact ⟨merged, congrArg root.withRows hmerged⟩
  | cons step steps =>
    rw [List.getLast?_eq_some_getLast (List.cons_ne_nil _ _)] at h
    obtain ⟨changed, -, rfl⟩ := map_eq_ok_iff.mp h
    exact ⟨changed, rfl⟩

theorem sectionAt_put_of_headName_ne {root root' : Value} {key : String} {value : Value}
    (hput : root.put key value = .ok root') {sectionName : String}
    (h : headName key ≠ sectionName) :
    sectionAt root' sectionName = sectionAt root sectionName := by
  obtain ⟨changed, rfl⟩ := put_eq_setRow hput
  rw [sectionAt, Value.rows_withRows, lookup_setRow_of_ne _ _ h.symm, sectionAt]

theorem Value.itemIndex_of_isItem (v : Value) {i : Int} (h : IsItem i) :
    v.itemIndex i = .ok i.toNat := by
  rw [itemIndex, if_neg (Int.not_lt.mpr h.1), if_pos h.2]

theorem exists_modifyAt {change : Value → Except Abort Value}
    (hchange : ∀ v, ∃ v', change v = .ok v') {path : List KeyStep}
    (hitems : ∀ i, .item i ∈ path → IsItem i) (v : Value) :
    ∃ v', v.modifyAt change path = .ok v' := by
  induction path generalizing v with
  | nil => exact hchange v
  | cons step rest ih =>
    have hrest := ih fun i hi => hitems i (List.mem_cons_of_mem _ hi)
    cases step with
    | field name =>
      obtain ⟨changed, hchanged⟩ := hrest ((v.rows.lookup (Text.lowercase name)).getD Value.absent)
      exact ⟨_, map_eq_ok_iff.mpr ⟨changed, hchanged, rfl⟩⟩
    | item i =>
      have hindex := v.itemIndex_of_isItem (hitems i List.mem_cons_self)
      obtain ⟨changed, hchanged⟩ :=
        hrest ((v.items (i.toNat + 1))[i.toNat]?.getD Value.absent)
      exact ⟨_, bind_eq_ok_iff.mpr ⟨_, hindex, bind_eq_ok_iff.mpr ⟨changed, hchanged, rfl⟩⟩⟩

/-- Any value can be put under a key that picks no item that cannot be there. -/
theorem exists_put (root : Value) {key : String} (hkey : IsBounded key) (value : Value) :
    ∃ root', root.put key value = .ok root' := by
  unfold Value.put
  simp only
  cases hlast : (keyPath key).getLast? with
  | none => exact ⟨root, rfl⟩
  | some step =>
    refine exists_modifyAt (fun v => ?_) (fun i hi => hkey i (List.dropLast_subset _ hi)) root
    cases step with
    | field name => exact ⟨_, rfl⟩
    | item i =>
      have hindex := v.itemIndex_of_isItem (hkey i (List.mem_of_getLast? hlast))
      exact ⟨_, map_eq_ok_iff.mpr ⟨_, hindex, rfl⟩⟩

/-- Values with a leaf of a section replaced. The section becomes a table if it was none. -/
def Value.setLeaf (root : Value) (sectionName name : String) (value : Value) : Value :=
  let inner := (root.rows.lookup sectionName).getD absent
  root.withRows (setRow root.rows sectionName (inner.withRows (setRow inner.rows name value)))

theorem sectionAt_setLeaf (root : Value) (sectionName name : String) (value : Value) :
    (sectionAt (root.setLeaf sectionName name value) sectionName).IsTable ∧
      ∀ leaf, leafAt? (root.setLeaf sectionName name value) sectionName leaf =
        if leaf = name then some value else leafAt? root sectionName leaf := by
  let inner := (root.rows.lookup sectionName).getD Value.absent
  have hsection : sectionAt (root.setLeaf sectionName name value) sectionName =
      inner.withRows (setRow inner.rows name value) := by
    rw [sectionAt, Value.setLeaf, Value.rows_withRows, lookup_setRow_self, Option.getD_some]
  have hinner : inner.rows = (sectionAt root sectionName).rows := by
    simp only [inner, sectionAt]
    cases root.rows.lookup sectionName <;> rfl
  refine ⟨hsection ▸ inner.isTable_withRows _, fun leaf => ?_⟩
  rw [leafAt?, hsection, Value.rows_withRows, hinner]
  split
  · rename_i hleaf
    rw [hleaf, lookup_setRow_self]
  · rename_i hleaf
    rw [lookup_setRow_of_ne _ _ hleaf, leafAt?]

/-- Rows of single values that are merged into a value come to stand over its own. -/
theorem lookup_mergeRows (target : Value) {rows : List (String × Value)}
    (hrows : ∀ row ∈ rows, Text.lowercase row.1 = row.1 ∧ ∃ x origin, row.2 = .scalar x origin)
    (hdistinct : (rows.map Prod.fst).Nodup) (name : String) :
    (mergeRows target rows).rows.lookup name =
      (rows.lookup name).or (target.rows.lookup name) := by
  induction rows generalizing target with
  | nil => rw [mergeRows]; rfl
  | cons row rest ih =>
    obtain ⟨key, value⟩ := row
    obtain ⟨⟨hlower, x, origin, rfl⟩, hrest⟩ := List.forall_mem_cons.mp hrows
    obtain ⟨hnew, hothers⟩ := List.nodup_cons.mp hdistinct
    rw [mergeRows, ih _ hrest hothers, Value.rows_withRows, mergeField, hlower, List.lookup_cons]
    by_cases hname : name = key
    · -- the rows behind this one do not replace it, as they have other names
      subst hname
      have habsent : rest.lookup name = none := by
        rw [List.lookup_eq_none_iff]
        intro row hrow
        have hne : name ≠ row.1 := fun he => hnew (List.mem_map.mpr ⟨row, hrow, he.symm⟩)
        simpa using hne
      rw [habsent, lookup_setRow_self, beq_self_eq_true]
      rfl
    · have hbeq : (name == key) = false := by simpa using hname
      rw [lookup_setRow_of_ne _ _ hname, hbeq]

theorem isTable_mergeRows {target : Value} (h : target.IsTable) (rows : List (String × Value)) :
    (mergeRows target rows).IsTable := by
  induction rows generalizing target with
  | nil => rwa [mergeRows]
  | cons row rest ih => rw [mergeRows]; exact ih (target.isTable_withRows _)

/-- An entry decides the leaves of a section that it gives, and leaves the others as they are. The
section stays a table. -/
theorem section_put {root root' : Value} {sectionName : String}
    (hlower : Text.lowercase sectionName = sectionName)
    (h : (sectionAt root sectionName).IsTable) {entry : String × Value}
    (htame : Tame sectionName entry) (hput : root.put entry.1 entry.2 = .ok root') :
    (sectionAt root' sectionName).IsTable ∧
      ∀ name, leafAt? root' sectionName name =
        (given? sectionName name entry).or (leafAt? root sectionName name) := by
  cases htame with
  | @table key rows origin hpath hrows hdistinct =>
    have hmerged : root' = root.withRows (setRow root.rows sectionName
        (mergeRows (sectionAt root sectionName) rows)) := by
      simp only [Value.put, hpath, List.getLast?_singleton, List.dropLast_singleton,
        Value.modifyAt, Value.putStep, mergeField, hlower] at hput
      exact (Except.ok.inj hput).symm
    have hsection : sectionAt root' sectionName = mergeRows (sectionAt root sectionName) rows := by
      rw [hmerged, sectionAt, Value.rows_withRows, lookup_setRow_self, Option.getD_some]
    refine ⟨hsection ▸ isTable_mergeRows h rows, fun name => ?_⟩
    rw [leafAt?, hsection, lookup_mergeRows _ hrows hdistinct, given?]
    simp only [hpath, if_true]
    rfl
  | @leaf key leafName x origin hpath hname =>
    have hset : root' = root.setLeaf sectionName leafName (.scalar x origin) := by
      simp only [Value.put, hpath, List.getLast?_cons_cons, List.getLast?_singleton,
        List.dropLast_cons_cons, List.dropLast_singleton, Value.modifyAt, Value.putStep, mergeField,
        hlower, hname, Except.map] at hput
      exact (Except.ok.inj hput).symm
    obtain ⟨htable, hleaf⟩ := sectionAt_setLeaf root sectionName leafName (.scalar x origin)
    refine ⟨hset ▸ htable, fun name => ?_⟩
    rw [hset, hleaf, given?]
    simp only [hpath, true_and]
    by_cases hsame : leafName = name
    · rw [if_pos hsame, if_pos hsame.symm]
      rfl
    · rw [if_neg hsame, if_neg (Ne.symm hsame)]
      rfl
  | @elsewhere key value hhead =>
    have hsame := sectionAt_put_of_headName_ne hput hhead
    refine ⟨hsame ▸ h, fun name => ?_⟩
    rw [leafAt?, hsame, given?_of_headName_ne hlower name hhead]
    rfl

/-! ### Many entries -/

/-- Entries whose keys pick no items that cannot be there are merged. -/
theorem exists_merge {entries : List (String × Value)}
    (hkeys : ∀ entry ∈ entries, IsBounded entry.1) : ∃ root, merge entries = .ok root := by
  unfold merge
  generalize (Value.table [] none) = root
  induction entries generalizing root with
  | nil => exact ⟨root, rfl⟩
  | cons entry rest ih =>
    obtain ⟨hentry, hrest⟩ := List.forall_mem_cons.mp hkeys
    obtain ⟨root', hput⟩ := exists_put root hentry entry.2
    obtain ⟨merged, hmerged⟩ := ih hrest root'
    exact ⟨merged, bind_eq_ok_iff.mpr ⟨root', hput, hmerged⟩⟩

theorem section_foldlM {sectionName : String} (hlower : Text.lowercase sectionName = sectionName)
    {entries : List (String × Value)} (htame : ∀ entry ∈ entries, Tame sectionName entry)
    {root merged : Value} (h : (sectionAt root sectionName).IsTable)
    (hmerged : entries.foldlM (fun root (key, value) => root.put key value) root = .ok merged) :
    (sectionAt merged sectionName).IsTable ∧
      ∀ name, leafAt? merged sectionName name =
        (entries.reverse.findSome? (given? sectionName name)).or
          (leafAt? root sectionName name) := by
  induction entries generalizing root with
  | nil =>
    cases hmerged
    exact ⟨h, fun name => rfl⟩
  | cons entry rest ih =>
    obtain ⟨hentry, hrest⟩ := List.forall_mem_cons.mp htame
    obtain ⟨root', hput, hothers⟩ := bind_eq_ok_iff.mp hmerged
    obtain ⟨htable, hleaf⟩ := section_put hlower h hentry hput
    obtain ⟨hsection, hleaves⟩ := ih hrest htable hothers
    refine ⟨hsection, fun name => (hleaves name).trans ?_⟩
    rw [hleaf, List.reverse_cons, List.findSome?_append, Option.or_assoc]
    simp

/-- Of several entries the last one that gives a leaf of a section decides it. -/
theorem section_merge {sectionName : String} (hlower : Text.lowercase sectionName = sectionName)
    {entries : List (String × Value)} (htame : ∀ entry ∈ entries, Tame sectionName entry)
    {root : Value} (hroot : merge entries = .ok root) :
    (sectionAt root sectionName).IsTable ∧
      ∀ name, leafAt? root sectionName name =
        entries.reverse.findSome? (given? sectionName name) := by
  have hempty : (sectionAt (.table [] none) sectionName).IsTable := ⟨[], none, rfl⟩
  obtain ⟨htable, hleaves⟩ := section_foldlM hlower htame hempty hroot
  exact ⟨htable, fun name => (hleaves name).trans (Option.or_none ..)⟩

end FixedWindow.Settings
