import FixedWindow.Proofs.Settings.EnvironmentLayer

/-!
# Merged values that differ in one field

One more entry for a field sets this field among the merged values and changes nothing else, however
the section of the field was laid out. The difference stays as further entries are merged, as long
as none of them replaces the section or gives the field again, and it does not keep them from being
merged. What the two trees of values stand
for differs in this field only, but if the section was a list it has become a table, and its other
fields have their defaults.

## Main definitions

* `Field.IsSparedBy`: a key that leads past a field.
* `Settings.Differs`: values that are others but for one field.
* `Section.ReadsOver`: what a section reads as once a field has a value of its own.

## Main results

* `Differs.of_put`, `Differs.put`: an entry for the field makes the difference, and further entries
  keep it.
* `Differs.exists_readsOver`: what the section of the field reads as.
* `Settings.ofLayers_eq_ok_iff_sections`: settings are read section by section.
-/

namespace FixedWindow.Settings

/-! ### What an entry changes -/

section

variable (key : String) (x : Scalar) (origin : Option String)

/-- A single value under a key changes what stands under the name through which the key leads first,
and what becomes of it depends on nothing else. -/
theorem exists_change :
    ∃ change : Option Value → Except Abort Value, ∀ root : Value,
      let name := headName key
      root.put key (.scalar x origin) =
        (change (root.rows.lookup name)).map fun v => root.withRows (setRow root.rows name v) := by
  obtain ⟨first, rest, hpath⟩ := exists_keyPath key
  rw [headName_of_keyPath hpath]
  cases rest with
  | nil =>
    refine ⟨fun _ => .ok (.scalar x origin), fun root => ?_⟩
    simp only [Value.put, hpath, List.getLast?_singleton, List.dropLast_singleton, Value.modifyAt,
      Value.putStep, mergeField, Except.map]
  | cons step steps =>
    refine ⟨fun v? => Value.modifyAt (Value.putStep (.scalar x origin)
      ((step :: steps).getLast (List.cons_ne_nil _ _))) (step :: steps).dropLast
        (v?.getD Value.absent), fun root => ?_⟩
    simp only [Value.put, hpath, List.getLast?_cons_cons,
      List.getLast?_eq_some_getLast (List.cons_ne_nil step steps), List.dropLast_cons_cons,
      Value.modifyAt]

theorem map_setLeaf (result : Except Abort Value) (root : Value) (sectionName name : String) :
    let inner := (root.rows.lookup sectionName).getD Value.absent
    (result.map fun v => inner.withRows (setRow inner.rows name v)).map
        (fun v => root.withRows (setRow root.rows sectionName v)) =
      result.map (root.setLeaf sectionName name) := by
  cases result <;> rfl

/-- A single value under a path of two names and more changes one leaf of the section, and what
becomes of this leaf depends on nothing else. -/
theorem exists_change_leaf {first name : String} {rest : List KeyStep}
    (hpath : keyPath key = .field first :: .field name :: rest) :
    ∃ change : Option Value → Except Abort Value,
      (rest = [] → ∀ v?, change v? = .ok (.scalar x origin)) ∧ ∀ root : Value,
        root.put key (.scalar x origin) =
          (change (leafAt? root (Text.lowercase first) (Text.lowercase name))).map
            (root.setLeaf (Text.lowercase first) (Text.lowercase name)) := by
  have hinner (root : Value) (sectionName : String) :
      ((root.rows.lookup sectionName).getD Value.absent).rows =
        (sectionAt root sectionName).rows := by
    simp only [sectionAt]
    cases root.rows.lookup sectionName <;> rfl
  cases rest with
  | nil =>
    refine ⟨fun _ => .ok (.scalar x origin), fun _ _ => rfl, fun root => ?_⟩
    simp only [Value.put, hpath, List.getLast?_cons_cons, List.getLast?_singleton,
      List.dropLast_cons_cons, List.dropLast_singleton, Value.modifyAt, Value.putStep, mergeField,
      Except.map, Value.setLeaf]
  | cons step steps =>
    refine ⟨fun v? => Value.modifyAt (Value.putStep (.scalar x origin)
      ((step :: steps).getLast (List.cons_ne_nil _ _))) (step :: steps).dropLast
        (v?.getD Value.absent), fun h => (List.cons_ne_nil _ _ h).elim, fun root => ?_⟩
    simp only [Value.put, hpath, List.getLast?_cons_cons,
      List.getLast?_eq_some_getLast (List.cons_ne_nil step steps), List.dropLast_cons_cons,
      Value.modifyAt, leafAt?, ← hinner]
    exact map_setLeaf ..

theorem lookup_put_of_ne {root root' value : Value} {key : String}
    (hput : root.put key value = .ok root') {name : String} (h : name ≠ headName key) :
    root'.rows.lookup name = root.rows.lookup name := by
  obtain ⟨changed, rfl⟩ := put_eq_setRow hput
  rw [Value.rows_withRows, lookup_setRow_of_ne _ _ h]

theorem lookup_put_congr {root root' new new' : Value} {name : String}
    (hput : root.put key (.scalar x origin) = .ok new)
    (hput' : root'.put key (.scalar x origin) = .ok new')
    (h : root'.rows.lookup name = root.rows.lookup name) :
    new'.rows.lookup name = new.rows.lookup name := by
  by_cases hname : name = headName key
  · obtain ⟨change, hchange⟩ := exists_change key x origin
    subst hname
    simp only [hchange] at hput hput'
    obtain ⟨changed, hchanged, rfl⟩ := map_eq_ok_iff.mp hput
    obtain ⟨changed', hchanged', rfl⟩ := map_eq_ok_iff.mp hput'
    obtain rfl : changed = changed' := Except.ok.inj (by rw [← hchanged, ← hchanged', h])
    simp only [Value.rows_withRows, lookup_setRow_self]
  · rw [lookup_put_of_ne hput' hname, lookup_put_of_ne hput hname, h]

theorem exists_put_congr {root root' new : Value}
    (hput : root.put key (.scalar x origin) = .ok new)
    (h : root'.rows.lookup (headName key) = root.rows.lookup (headName key)) :
    ∃ new', root'.put key (.scalar x origin) = .ok new' := by
  obtain ⟨change, hchange⟩ := exists_change key x origin
  simp only [hchange] at hput ⊢
  obtain ⟨changed, hchanged, -⟩ := map_eq_ok_iff.mp hput
  exact ⟨_, map_eq_ok_iff.mpr ⟨changed, by rw [h, hchanged], rfl⟩⟩

end

/-! ### Values that differ in one field -/

/-- A key that leads past a field: to another section, or to another field of the section or into
it. -/
def Field.IsSparedBy (f : Field) (key : String) : Prop :=
  headName key ≠ f.sectionName ∨ ∃ first name rest,
    keyPath key = .field first :: .field name :: rest ∧ Text.lowercase name ≠ f.name

/-- Values that are others but for a field, which has a value of its own. -/
structure Differs (root : Value) (f : Field) (value : Value) (root' : Value) : Prop where
  isTable : (sectionAt root' f.sectionName).IsTable
  leaf : leafAt? root' f.sectionName f.name = some value
  others : ∀ name ≠ f.name, leafAt? root' f.sectionName name = leafAt? root f.sectionName name
  elsewhere : ∀ name ≠ f.sectionName, root'.rows.lookup name = root.rows.lookup name

namespace Differs

variable {root root' value : Value} {f : Field}

/-- A single value can be put under the key of a field. It sets this field, and nothing else. -/
theorem of_put (root : Value) {key : String}
    (hpath : keyPath key = [.field f.sectionName, .field f.name]) (x : Scalar)
    (origin : Option String) :
    ∃ root', root.put key (.scalar x origin) = .ok root' ∧
      Differs root f (.scalar x origin) root' := by
  obtain ⟨change, hsingle, hchange⟩ := exists_change_leaf key x origin hpath
  rw [f.lowercase_sectionName, f.isPlainName_name.lower] at hchange
  have hput := hchange root
  rw [hsingle rfl] at hput
  have hhead : headName key = f.sectionName := by
    rw [headName_of_keyPath hpath, f.lowercase_sectionName]
  obtain ⟨htable, hleaf⟩ := sectionAt_setLeaf root f.sectionName f.name (.scalar x origin)
  exact ⟨_, hput, htable, (hleaf f.name).trans (if_pos rfl),
    fun name hname => (hleaf name).trans (if_neg hname),
    fun name hname => lookup_put_of_ne hput (hhead ▸ hname)⟩

theorem beside {other other' : Value} (h : Differs root f value root')
    (hother : Differs root f other' other) : Differs other f value root' where
  isTable := h.isTable
  leaf := h.leaf
  others := fun name hname => (h.others name hname).trans (hother.others name hname).symm
  elsewhere := fun name hname => (h.elsewhere name hname).trans (hother.elsewhere name hname).symm

/-- A further entry that leads past the field keeps the difference. -/
theorem put (h : Differs root f value root') {key : String} (hkey : f.IsSparedBy key) {x : Scalar}
    {origin : Option String} {new : Value} (hput : root.put key (.scalar x origin) = .ok new) :
    ∃ new', root'.put key (.scalar x origin) = .ok new' ∧ Differs new f value new' := by
  have helsewhere {new' : Value} (hput' : root'.put key (.scalar x origin) = .ok new')
      (name : String) (hname : name ≠ f.sectionName) :=
    lookup_put_congr key x origin hput hput' (h.elsewhere name hname)
  by_cases hhead : headName key = f.sectionName
  · obtain ⟨first, name, rest, hpath, hname⟩ := hkey.resolve_left (fun hne => hne hhead)
    have hfirst : Text.lowercase first = f.sectionName := by
      rw [← headName_of_keyPath hpath, hhead]
    obtain ⟨change, -, hchange⟩ := exists_change_leaf key x origin hpath
    rw [hfirst] at hchange
    have hput₀ := hput
    rw [hchange] at hput₀
    obtain ⟨changed, hchanged, rfl⟩ := map_eq_ok_iff.mp hput₀
    have hput' : root'.put key (.scalar x origin) =
        .ok (root'.setLeaf f.sectionName (Text.lowercase name) changed) := by
      rw [hchange, h.others _ hname, hchanged]
      rfl
    obtain ⟨-, hleaf⟩ := sectionAt_setLeaf root f.sectionName (Text.lowercase name) changed
    obtain ⟨htable, hleaf'⟩ := sectionAt_setLeaf root' f.sectionName (Text.lowercase name) changed
    refine ⟨_, hput', htable, ?_, fun other hother => ?_, helsewhere hput'⟩
    · rw [hleaf', if_neg hname.symm, h.leaf]
    · rw [hleaf', hleaf, h.others other hother]
  · obtain ⟨new', hput'⟩ := exists_put_congr key x origin hput (h.elsewhere _ hhead)
    have hsame := sectionAt_put_of_headName_ne hput hhead
    have hsame' := sectionAt_put_of_headName_ne hput' hhead
    refine ⟨new', hput', hsame' ▸ h.isTable, ?_, fun other hother => ?_, helsewhere hput'⟩
    · rw [leafAt?, hsame', ← h.leaf, leafAt?]
    · rw [leafAt?, leafAt?, hsame, hsame']
      exact h.others other hother

/-- The variables behind that spare the field keep the difference. -/
theorem foldlM (h : Differs root f value root') {environment : List (String × String)}
    (hspared : ∀ v ∈ environment, ∀ key, environmentKey? v.1 = some key → f.IsSparedBy key)
    {merged : Value} (hmerged : (environmentEntries environment).foldlM
      (fun root (key, value) => root.put key value) root = .ok merged) :
    ∃ merged', (environmentEntries environment).foldlM
        (fun root (key, value) => root.put key value) root' = .ok merged' ∧
      Differs merged f value merged' := by
  induction environment generalizing root root' with
  | nil =>
    cases hmerged
    exact ⟨root', rfl, h⟩
  | cons v rest ih =>
    obtain ⟨hv, hrest⟩ := List.forall_mem_cons.mp hspared
    cases hkey : environmentKey? v.1 with
    | none =>
      simp only [environmentEntries, List.filterMap_cons, hkey, Option.map_none] at hmerged ⊢
      exact ih h hrest hmerged
    | some key =>
      simp only [environmentEntries, List.filterMap_cons, hkey, Option.map_some,
        List.foldlM_cons] at hmerged ⊢
      obtain ⟨new, hput, hothers⟩ := bind_eq_ok_iff.mp hmerged
      obtain ⟨new', hput', hnew⟩ := h.put (hv key hkey) hput
      obtain ⟨merged', hmerged', hdiffers⟩ := ih hnew hrest hothers
      exact ⟨merged', bind_eq_ok_iff.mpr ⟨new', hput', hmerged'⟩, hdiffers⟩

end Differs

/-! ### Sections -/

namespace Section

variable {root root' : Value} {name : String} {expected : Expected}

theorem ofRoot_congr (h : root'.rows.lookup name = root.rows.lookup name) (expected : Expected) :
    ofRoot root' name expected = ofRoot root name expected := by
  simp only [ofRoot, h]

/-- A section that is not a table is a list and has no leaves. -/
theorem cases_of_ofRoot {s : Section} (h : ofRoot root name expected = .ok s) :
    s = ⟨name, sectionAt root name⟩ ∧
      ((sectionAt root name).IsTable ∨ ∀ leaf, leafAt? root name leaf = none) := by
  unfold leafAt?
  unfold sectionAt
  unfold ofRoot at h
  cases hrow : root.rows.lookup name with
  | none =>
    rw [hrow] at h
    cases h
    exact ⟨rfl, .inl ⟨[], none, rfl⟩⟩
  | some value =>
    rw [hrow] at h
    cases value with
    | scalar x origin => cases h
    | list items origin =>
      cases h
      exact ⟨rfl, .inr fun leaf => rfl⟩
    | table rows origin =>
      cases h
      exact ⟨rfl, .inl ⟨rows, origin, rfl⟩⟩

end Section

/-- Settings are read section by section. -/
theorem ofLayers_eq_ok_iff_sections {root : Value} {s : Settings} :
    ofLayers root = .ok s ↔
      (∃ x, Section.ofRoot root "store" .store = .ok x ∧ x.toStore = .ok s.store) ∧
        (∃ x, Section.ofRoot root "rate_limiting" .limits = .ok x ∧ x.toLimits = .ok s.limits) ∧
        ∃ x, Section.ofRoot root "logging" .log = .ok x ∧ x.toLog = .ok s.log := by
  obtain ⟨store, limits, log⟩ := s
  simp only [ofLayers, bind_eq_ok_iff]
  constructor
  · rintro ⟨x, hx, _, hstore, y, hy, _, hlimits, z, hz, _, hlog, h⟩
    cases h
    exact ⟨⟨x, hx, hstore⟩, ⟨y, hy, hlimits⟩, z, hz, hlog⟩
  · rintro ⟨⟨x, hx, hstore⟩, ⟨y, hy, hlimits⟩, z, hz, hlog⟩
    exact ⟨x, hx, _, hstore, y, hy, _, hlimits, z, hz, _, hlog, rfl⟩

/-- What a section is read as once a field of it has a value of its own: the field is read from this
value, and the others as before, or as their defaults if the section was a list. -/
structure Section.ReadsOver (s : Section) (f : Field) (value : Value) (s' : Section) : Prop where
  own : ∀ {α : Type} {position : Nat} {default : α} (convert : String → Value → Except Fault α),
    s'.read f.name position default convert = convert (f.sectionName ++ "." ++ f.name) value
  others : (∀ {α : Type} {name : String} {position : Nat} {default : α}
      {convert : String → Value → Except Fault α}, name ≠ f.name →
      s'.read name position default convert = s.read name position default convert) ∨
    ∀ {α : Type} {name : String} {position : Nat} {default : α}
      {convert : String → Value → Except Fault α}, name ≠ f.name →
      s'.read name position default convert = .ok default

theorem Differs.exists_readsOver {root root' value : Value} {f : Field}
    (h : Differs root f value root') {expected : Expected} {s : Section}
    (hs : Section.ofRoot root f.sectionName expected = .ok s) :
    ∃ s', Section.ofRoot root' f.sectionName expected = .ok s' ∧ s.ReadsOver f value s' := by
  obtain ⟨rfl, hkind⟩ := Section.cases_of_ofRoot hs
  refine ⟨_, Section.ofRoot_of_isTable h.isTable expected, fun convert => ?_, ?_⟩
  · rw [Section.read_of_isTable h.isTable, h.leaf]
  · rcases hkind with htable | hnone
    · refine .inl fun {α name position default convert} hname => ?_
      rw [Section.read_of_isTable h.isTable, Section.read_of_isTable htable, h.others name hname]
    · refine .inr fun {α name position default convert} hname => ?_
      rw [Section.read_of_isTable h.isTable, h.others name hname, hnone name]

end FixedWindow.Settings
