import FixedWindow.Proofs.Settings.Field

/-!
# When settings are loaded

Once the file has been read, its entries and those of the environment are merged. Settings are
loaded if the merged values stand for them and if they meet all conditions. Otherwise it is the
settings that are at fault, unless the entries could not be merged at all.

## Main results

* `Settings.validate_eq_ok_iff_holds`: settings that meet all conditions pass.
* `Settings.load_of_entries`: when settings are loaded.
* `Settings.merge_environment`: the variables are merged one after the other.
-/

namespace FixedWindow.Settings

theorem validate_eq_ok_iff_holds {s t : Settings} :
    s.validate = .ok t ↔ s = t ∧ ∀ c : Condition, c.holds t = true := by
  have hall (c : Condition) : c ∈ Condition.all := by cases c <;> decide
  rw [validate_eq_ok_iff, unmet?, List.find?_eq_none, and_comm]
  refine and_congr_right fun h => ?_
  subst h
  simp only [Bool.not_eq_true', Bool.not_eq_false]
  exact ⟨fun h c => h c (hall c), fun h c _ => h c⟩

/-- Once the file has been read, settings are loaded if the layers can be merged, the merged values
stand for settings and these meet all conditions. Otherwise the settings are at fault, or merging
was aborted. -/
theorem load_of_entries {files : String → Option String} {path : Option String}
    {entries : List (String × Value)} (environment : List (String × String))
    (hentries : path.elim (.ok []) (entriesOfFile files) = .ok entries) :
    let merged := merge (entries ++ environmentEntries environment)
    (∀ settings, (load files path environment).answer = .ok settings ↔
        ∃ root, merged = .ok root ∧ ofLayers root = .ok settings ∧
          ∀ c : Condition, c.holds settings = true) ∧
      ∀ error, (load files path environment).answer = .error error →
        (∃ fault, error = .config fault) ∨ ∃ why, merged = .error why ∧ error = .abort why := by
  simp only [load, hentries, bind, Except.bind]
  cases merge (entries ++ environmentEntries environment) with
  | error why =>
    refine ⟨fun settings => ⟨fun h => ?_, fun h => ?_⟩, fun error h => .inr ⟨why, rfl, ?_⟩⟩
    · cases h
    · obtain ⟨_, h, -⟩ := h
      cases h
    · cases h
      rfl
  | ok root =>
    have hmerged : (Except.ok root).mapError LimitError.abort = .ok root := rfl
    simp only [hmerged, Except.ok.injEq, exists_eq_left']
    cases ofLayers root with
    | error fault =>
      refine ⟨fun settings => ⟨fun h => ?_, fun h => ?_⟩, fun error h => .inl ⟨fault, ?_⟩⟩
      · cases h
      · cases h.1
      · cases h
        rfl
    | ok loaded =>
      simp only [Except.ok.injEq]
      refine ⟨fun settings => validate_eq_ok_iff_holds, fun error h => .inl ?_⟩
      unfold validate at h
      split at h
      · cases h
      · cases h
        exact ⟨_, rfl⟩

/-- The variables of an environment are merged one after the other. -/
theorem merge_environment (entries : List (String × Value))
    (before after : List (String × String)) :
    merge (entries ++ environmentEntries (before ++ after)) =
      merge (entries ++ environmentEntries before) >>=
        (environmentEntries after).foldlM fun root (key, value) => root.put key value := by
  simp only [merge, environmentEntries, List.filterMap_append, List.foldlM_append,
    bind_assoc]

end FixedWindow.Settings
