import FixedWindow.Proofs.Settings.FileLayer

/-!
# The layer of the environment

An environment is laid out field by field if each of its variables for settings names a section and
a field in it, by plain names in letters of any case. Such an environment gives to each field what
the variable for the field holds, and nothing to the other fields.

## Main definitions

* `Settings.IsPlainName`, `Settings.IsPlainSection`: names that stand for themselves in the name of
  a variable and on a path.
* `Settings.IsFieldwise`: an environment that is laid out field by field.
* `Field.variableName`, `Field.fromEnvironment?`: the variable for a field, and what it holds.

## Main results

* `Settings.keyPath_of_isPlainName`: the path for two plain names.
* `Settings.tame_environmentEntries`, `Settings.given?_environmentEntries`: what the entries of an
  environment give to a field.
-/

namespace FixedWindow.Settings

/-- A lower-case name of characters that may stand on a path, with no two underscores in a row. -/
structure IsPlainName (name : String) : Prop where
  nonempty : name.toList ≠ []
  chars : ∀ c ∈ name.toList, isNameChar c = true
  lower : Text.lowercase name = name
  apart : ¬ ['_', '_'] <:+: name.toList

/-- A plain name that two underscores behind it can be told from. -/
structure IsPlainSection (name : String) : Prop extends IsPlainName name where
  last : name.toList.getLast? ≠ some '_'

/-- A variable for settings names a section and a field in it. -/
def IsFieldwise (environment : List (String × String)) : Prop :=
  ∀ v ∈ environment, variableLead.isPrefixOf (Text.lowercase v.1).toList = true →
    ∃ sectionName name, Text.lowercase v.1 = "tierlimit__" ++ sectionName ++ "__" ++ name ∧
      IsPlainSection sectionName ∧ IsPlainName name

/-! ### Underscores and points -/

theorem pointed_cons {c : Char} {rest : List Char} (h : ¬ ['_', '_'] <+: c :: rest) :
    pointed (c :: rest) = c :: pointed rest := by
  rw [pointed]
  rintro others rfl rfl
  exact h ⟨others, rfl⟩

theorem pointed_of_apart {cs : List Char} (h : ¬ ['_', '_'] <:+: cs) : pointed cs = cs := by
  induction cs with
  | nil => rfl
  | cons c rest ih =>
    rw [List.infix_cons_iff, not_or] at h
    rw [pointed_cons h.1, ih h.2]

/-- Underscores at the end of a text cannot be told from those behind it, but others can. -/
theorem pointed_append {cs : List Char} (h : ¬ ['_', '_'] <:+: cs)
    (hlast : cs.getLast? ≠ some '_') (rest : List Char) :
    pointed (cs ++ rest) = cs ++ pointed rest := by
  induction cs with
  | nil => rfl
  | cons c others ih =>
    rw [List.infix_cons_iff, not_or] at h
    -- two underscores in front would stand in the text already, or reach over its end
    have hhead : ¬ ['_', '_'] <+: c :: (others ++ rest) := by
      cases others with
      | nil =>
        rintro ⟨_, hc⟩
        cases hc
        exact hlast rfl
      | cons d more =>
        rintro ⟨_, hc⟩
        cases hc
        exact h.1 ⟨more, rfl⟩
    have hothers : others.getLast? ≠ some '_' := by
      cases others with
      | nil => simp
      | cons d more => rwa [List.getLast?_cons_cons] at hlast
    rw [List.cons_append, pointed_cons hhead, ih h.2 hothers, List.cons_append]

/-! ### Paths of two names -/

theorem pathSteps_append {cs : List Char} (h : ∀ c ∈ cs, isNameChar c = true)
    (read rest : List Char) :
    pathSteps? (.name read) (cs ++ rest) = pathSteps? (.name (cs.reverse ++ read)) rest := by
  induction cs generalizing read with
  | nil => rfl
  | cons c others ih =>
    obtain ⟨hc, hothers⟩ := List.forall_mem_cons.mp h
    rw [List.cons_append, pathSteps?, if_pos hc, ih hothers, List.reverse_cons, List.append_assoc]
    rfl

/-- Two plain names with a point between them are a path. -/
theorem keyPath_of_isPlainName {sectionName name : String} (hsection : IsPlainName sectionName)
    (hname : IsPlainName name) :
    keyPath (String.ofList (sectionName.toList ++ '.' :: name.toList)) =
      [.field sectionName, .field name] := by
  have hlast : pathSteps? (.name []) name.toList = some [.field name] := by
    have h := pathSteps_append hname.chars [] []
    rw [List.append_nil, List.append_nil] at h
    simp [h, pathSteps?, hname.nonempty]
  have hpoint : isNameChar '.' = false := by decide
  rw [keyPath, String.toList_ofList, pathSteps_append hsection.chars, List.append_nil, pathSteps?,
    hpoint]
  simp [hsection.nonempty, hlast]

/-! ### Variables -/

theorem toList_variableName {variableName sectionName name : String}
    (h : variableName = "tierlimit__" ++ sectionName ++ "__" ++ name) :
    variableName.toList =
      variableLead ++ (sectionName.toList ++ '_' :: '_' :: name.toList) := by
  have hlead : "tierlimit__".toList = variableLead := rfl
  have hscores : "__".toList = ['_', '_'] := by decide
  rw [h, String.toList_append, String.toList_append, String.toList_append, hlead, hscores]
  simp only [List.append_assoc, List.cons_append, List.nil_append]

theorem environmentKey?_of_isPlainName {variableName sectionName name : String}
    (h : Text.lowercase variableName = "tierlimit__" ++ sectionName ++ "__" ++ name)
    (hsection : IsPlainSection sectionName) (hname : IsPlainName name) :
    environmentKey? variableName =
      some (String.ofList (sectionName.toList ++ '.' :: name.toList)) := by
  have hlist := toList_variableName h
  have hlead : variableLead.isPrefixOf (Text.lowercase variableName).toList = true := by
    rw [hlist, List.isPrefixOf_iff_prefix]
    exact List.prefix_append ..
  rw [environmentKey?, if_pos hlead, hlist, List.drop_left,
    pointed_append hsection.apart hsection.last, pointed, pointed_of_apart hname.apart]

/-- Plain names can be read off the name of a variable. -/
theorem plainNames_inj {sectionName name sectionName' name' : String}
    (hsection : IsPlainSection sectionName) (hname : IsPlainName name)
    (hsection' : IsPlainSection sectionName') (hname' : IsPlainName name')
    (h : "tierlimit__" ++ sectionName ++ "__" ++ name =
      "tierlimit__" ++ sectionName' ++ "__" ++ name') :
    sectionName = sectionName' ∧ name = name' := by
  have hlist : sectionName.toList ++ '_' :: '_' :: name.toList =
      sectionName'.toList ++ '_' :: '_' :: name'.toList :=
    List.append_cancel_left ((toList_variableName rfl).symm.trans (toList_variableName h))
  -- with the points in place, the names are the steps of a path
  have hpointed := congrArg pointed hlist
  rw [pointed_append hsection.apart hsection.last, pointed_append hsection'.apart hsection'.last,
    pointed, pointed, pointed_of_apart hname.apart, pointed_of_apart hname'.apart] at hpointed
  have hpath := congrArg (fun cs => keyPath (String.ofList cs)) hpointed
  simp only [keyPath_of_isPlainName hsection.toIsPlainName hname,
    keyPath_of_isPlainName hsection'.toIsPlainName hname'] at hpath
  cases hpath
  exact ⟨rfl, rfl⟩

namespace Field

/-- The name of the variable for a field, in lower case. -/
def variableName (f : Field) : String := "tierlimit__" ++ f.sectionName ++ "__" ++ f.name

/-- What the variable for a field holds. If there are several, the last one counts. -/
def fromEnvironment? (f : Field) (environment : List (String × String)) : Option Scalar :=
  environment.reverse.findSome? fun v =>
    if Text.lowercase v.1 = f.variableName then some (.ofVariable v.2) else none

theorem isPlainSection_sectionName (f : Field) : IsPlainSection f.sectionName where
  nonempty := by cases f <;> decide +kernel
  chars := List.all_eq_true.mp (by cases f <;> decide)
  lower := f.lowercase_sectionName
  apart := by cases f <;> simp [sectionName, List.infix_cons_iff]
  last := by cases f <;> decide +kernel

theorem isPlainName_name (f : Field) : IsPlainName f.name where
  nonempty := by cases f <;> decide +kernel
  chars := List.all_eq_true.mp (by cases f <;> decide)
  lower := by cases f <;> decide +kernel
  apart := by cases f <;> simp [name, List.infix_cons_iff]

end Field

section

variable {environment : List (String × String)} (hfieldwise : IsFieldwise environment) (f : Field)
include hfieldwise

/-- The entry that a variable gives, with the names that it names. -/
theorem entry_of_mem {v : String × String} (hv : v ∈ environment) :
    environmentKey? v.1 = none ∧ Text.lowercase v.1 ≠ f.variableName ∨
      ∃ sectionName name key, environmentKey? v.1 = some key ∧
        keyPath key = [.field sectionName, .field name] ∧
        Text.lowercase sectionName = sectionName ∧ Text.lowercase name = name ∧
        (Text.lowercase v.1 = f.variableName ↔ sectionName = f.sectionName ∧ name = f.name) := by
  by_cases hlead : variableLead.isPrefixOf (Text.lowercase v.1).toList = true
  · obtain ⟨sectionName, name, hv, hsection, hname⟩ := hfieldwise v hv hlead
    refine .inr ⟨sectionName, name, _, environmentKey?_of_isPlainName hv hsection hname,
      keyPath_of_isPlainName hsection.toIsPlainName hname, hsection.lower, hname.lower, ?_⟩
    rw [hv, Field.variableName]
    constructor
    · exact plainNames_inj hsection hname f.isPlainSection_sectionName f.isPlainName_name
    · rintro ⟨rfl, rfl⟩
      rfl
  · refine .inl ⟨by rw [environmentKey?, if_neg hlead], fun hsame => hlead ?_⟩
    rw [toList_variableName hsame, List.isPrefixOf_iff_prefix]
    exact List.prefix_append ..

theorem tame_environmentEntries :
    ∀ entry ∈ environmentEntries environment, Tame f.sectionName entry := by
  intro entry hentry
  obtain ⟨v, hv, hgives⟩ := List.mem_filterMap.mp hentry
  obtain ⟨key, hkey, rfl⟩ := Option.map_eq_some_iff.mp hgives
  rcases entry_of_mem hfieldwise f hv with
    ⟨hnone, -⟩ | ⟨sectionName, name, key', hkey', hpath, hsection, hname, -⟩
  · rw [hnone] at hkey
    cases hkey
  · obtain rfl : key' = key := Option.some.inj (hkey'.symm.trans hkey)
    by_cases hsame : sectionName = f.sectionName
    · exact .leaf (hsame ▸ hpath) hname
    · exact .elsewhere fun hhead => hsame (by
        rw [← hsection, ← headName_of_keyPath hpath, hhead])

theorem isBounded_environmentEntries :
    ∀ entry ∈ environmentEntries environment, IsBounded entry.1 := by
  intro entry hentry i hi
  obtain ⟨v, hv, hgives⟩ := List.mem_filterMap.mp hentry
  obtain ⟨key, hkey, rfl⟩ := Option.map_eq_some_iff.mp hgives
  rcases entry_of_mem hfieldwise .backend hv with
    ⟨hnone, -⟩ | ⟨sectionName, name, key', hkey', hpath, -⟩
  · rw [hnone] at hkey
    cases hkey
  · obtain rfl : key' = key := Option.some.inj (hkey'.symm.trans hkey)
    simp [hpath] at hi

/-- An environment gives to a field what the variable for the field holds. -/
theorem given?_environmentEntries :
    (environmentEntries environment).reverse.findSome? (given? f.sectionName f.name) =
      (f.fromEnvironment? environment).map fun x => .scalar x (some environmentOrigin) := by
  rw [environmentEntries, ← List.filterMap_reverse, ← List.head?_filterMap,
    List.filterMap_filterMap, List.head?_filterMap, Field.fromEnvironment?, List.map_findSome?]
  refine findSome?_congr fun v hv => ?_
  rcases entry_of_mem hfieldwise f (List.mem_reverse.mp hv) with
    ⟨hnone, hother⟩ | ⟨sectionName, name, key, hkey, hpath, -, -, hsame⟩
  · simp [hnone, hother]
  · simp only [hkey, Option.map_some, Option.bind_some, given?, hpath, hsame, Function.comp]
    split <;> rfl

end

end FixedWindow.Settings
