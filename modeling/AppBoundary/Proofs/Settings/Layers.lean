-- Settings laid over one another. One step keeps a field of the settings below
-- where the layer above leaves it unset, so each field of the result is that of
-- the last layer that sets it, and the grouping of the layers plays no part.
import AppBoundary.Settings
import Mathlib.Data.List.Induction

namespace AppBoundary

/-! ## The last value that is set -/

/-- Among values, one of which stands for nothing, the last one that is set. Without a value that is
set, nothing is. -/
inductive LastSet {α : Type} (unset : α) (values : List α) : α → Prop
  | set (before : List α) (value : α) (after : List α) :
      values = before ++ value :: after → value ≠ unset → (∀ later ∈ after, later = unset) →
      LastSet unset values value
  | unset : (∀ value ∈ values, value = unset) → LastSet unset values unset

namespace LastSet

variable {α : Type} {unset value last : α} {values : List α}

theorem eq_unset_of_nil (h : LastSet unset [] value) : value = unset := by
  cases h with
  | set before value after hvalues => simp at hvalues
  | unset => rfl

theorem singleton (unset value : α) : LastSet unset [value] value := by
  by_cases h : value = unset
  · subst h
    exact .unset (by simp)
  · exact .set [] value [] rfl h (by simp)

/-- One more value is the last one where it is set, and changes nothing where it is not. -/
theorem append_singleton_iff :
    LastSet unset (values ++ [last]) value ↔
      (last ≠ unset ∧ value = last) ∨ (last = unset ∧ LastSet unset values value) := by
  constructor
  · intro h
    cases h with
    | set before value after hvalues hset hafter =>
      rcases List.eq_nil_or_concat after with rfl | ⟨between, final, rfl⟩
      · obtain ⟨-, hlast⟩ := List.append_inj' hvalues rfl
        obtain rfl := List.singleton_inj.1 hlast
        exact Or.inl ⟨hset, rfl⟩
      · rw [List.concat_eq_append, ← List.cons_append, ← List.append_assoc] at hvalues
        obtain ⟨hbefore, hlast⟩ := List.append_inj' hvalues rfl
        obtain rfl := List.singleton_inj.1 hlast
        exact Or.inr ⟨hafter last (by simp),
          .set before value between hbefore hset fun later hlater => hafter later (by simp [hlater])⟩
    | unset hvalues =>
      exact Or.inr ⟨hvalues last (by simp), .unset fun other hother => hvalues other (by simp [hother])⟩
  · rintro (⟨hset, rfl⟩ | ⟨rfl, h⟩)
    · exact .set values value [] rfl hset (by simp)
    · cases h with
      | set before value after hvalues hset hafter =>
        refine .set before value (after ++ [last]) (by simp [hvalues]) hset ?_
        simpa [or_imp, forall_and] using hafter
      | unset hvalues =>
        refine .unset ?_
        simpa [or_imp, forall_and] using hvalues

/-- Only one value is the last that is set. -/
theorem unique {other : α} (h : LastSet unset values value) (hother : LastSet unset values other) :
    value = other := by
  induction values using List.reverseRecOn generalizing value other with
  | nil => rw [eq_unset_of_nil h, eq_unset_of_nil hother]
  | append_singleton values last ih =>
    rw [append_singleton_iff] at h hother
    rcases h with ⟨hset, rfl⟩ | ⟨hunset, h⟩
    · rcases hother with ⟨-, rfl⟩ | ⟨hunset, -⟩
      · rfl
      · exact absurd hunset hset
    · rcases hother with ⟨hset, -⟩ | ⟨-, hother⟩
      · exact absurd hunset hset
      · exact ih h hother

end LastSet

namespace Settings

/-! ## One layer over another -/

theorem mergeList_nil {α : Type} (below : List α) : mergeList below [] = below := rfl

theorem nil_mergeList {α : Type} (above : List α) : mergeList [] above = above := by
  cases above <;> rfl

theorem mergeList_of_ne_nil {α : Type} {above : List α} (below : List α) (h : above ≠ []) :
    mergeList below above = above := by
  cases above with
  | nil => exact absurd rfl h
  | cons => rfl

theorem mergeList_self {α : Type} (items : List α) : mergeList items items = items := by
  cases items <;> rfl

theorem mergeList_assoc {α : Type} (first second third : List α) :
    mergeList (mergeList first second) third = mergeList first (mergeList second third) := by
  cases third <;> rfl

theorem or_of_ne_none {α : Type} {above : Option α} (below : Option α) (h : above ≠ none) :
    above.or below = above := by
  cases above with
  | none => exact absurd rfl h
  | some => rfl

theorem merge_unset (settings : Settings) : settings.merge unset = settings := rfl

theorem unset_merge (settings : Settings) : unset.merge settings = settings := by
  simp only [merge, unset, nil_mergeList, Option.or_none]

theorem merge_self (settings : Settings) : settings.merge settings = settings := by
  simp only [merge, mergeList_self, Option.or_self]

theorem merge_assoc (first second third : Settings) :
    (first.merge second).merge third = first.merge (second.merge third) := by
  simp only [merge, mergeList_assoc, Option.or_assoc]

/-! ## Many layers -/

/-- A field that one step keeps or replaces is, after all layers, the one of the last layer that
sets it. -/
theorem lastSet_foldl {α : Type} {unset : α} {field : Settings → α}
    (hkeeps : ∀ below above : Settings, field above = unset → field (below.merge above) = field below)
    (hsets : ∀ below above : Settings, field above ≠ unset → field (below.merge above) = field above)
    (first : Settings) (rest : List Settings) :
    LastSet unset ((first :: rest).map field) (field (rest.foldl merge first)) := by
  induction rest using List.reverseRecOn with
  | nil => exact LastSet.singleton unset (field first)
  | append_singleton rest last ih =>
    rw [List.foldl_append, ← List.cons_append, List.map_append]
    simp only [List.foldl_cons, List.foldl_nil, List.map_cons, List.map_nil] at ih ⊢
    rw [LastSet.append_singleton_iff]
    by_cases h : field last = unset
    · rw [hkeeps _ last h]
      exact Or.inr ⟨h, ih⟩
    · rw [hsets _ last h]
      exact Or.inl ⟨h, rfl⟩

theorem lastSet_foldl_list {α : Type} {field : Settings → List α}
    (hfield : ∀ below above : Settings,
      field (below.merge above) = mergeList (field below) (field above))
    (first : Settings) (rest : List Settings) :
    LastSet [] ((first :: rest).map field) (field (rest.foldl merge first)) := by
  refine lastSet_foldl ?_ ?_ first rest
  · intro below above h
    rw [hfield, h, mergeList_nil]
  · intro below above h
    rw [hfield, mergeList_of_ne_nil _ h]

theorem lastSet_foldl_option {α : Type} {field : Settings → Option α}
    (hfield : ∀ below above : Settings,
      field (below.merge above) = (field above).or (field below))
    (first : Settings) (rest : List Settings) :
    LastSet none ((first :: rest).map field) (field (rest.foldl merge first)) := by
  refine lastSet_foldl ?_ ?_ first rest
  · intro below above h
    rw [hfield, h, Option.none_or]
  · intro below above h
    rw [hfield, or_of_ne_none _ h]

/-- Each field of the result is the one of the last layer that sets it. -/
structure Resolves (layers : List Settings) (result : Settings) : Prop where
  patterns : LastSet [] (layers.map (·.patterns)) result.patterns
  mainClass : LastSet none (layers.map (·.mainClass)) result.mainClass
  applicationArtifacts :
    LastSet [] (layers.map (·.applicationArtifacts)) result.applicationArtifacts
  libraryArtifacts : LastSet [] (layers.map (·.libraryArtifacts)) result.libraryArtifacts
  dynamicClassesFile : LastSet none (layers.map (·.dynamicClassesFile)) result.dynamicClassesFile
  reflectionFactsFile :
    LastSet none (layers.map (·.reflectionFactsFile)) result.reflectionFactsFile
  outputDirectory : LastSet none (layers.map (·.outputDirectory)) result.outputDirectory
  runtimeDirectory : LastSet none (layers.map (·.runtimeDirectory)) result.runtimeDirectory
  platformDirectory : LastSet none (layers.map (·.platformDirectory)) result.platformDirectory

theorem resolves_foldl (first : Settings) (rest : List Settings) :
    Resolves (first :: rest) (rest.foldl merge first) where
  patterns := lastSet_foldl_list (fun _ _ => rfl) first rest
  mainClass := lastSet_foldl_option (fun _ _ => rfl) first rest
  applicationArtifacts := lastSet_foldl_list (fun _ _ => rfl) first rest
  libraryArtifacts := lastSet_foldl_list (fun _ _ => rfl) first rest
  dynamicClassesFile := lastSet_foldl_option (fun _ _ => rfl) first rest
  reflectionFactsFile := lastSet_foldl_option (fun _ _ => rfl) first rest
  outputDirectory := lastSet_foldl_option (fun _ _ => rfl) first rest
  runtimeDirectory := lastSet_foldl_option (fun _ _ => rfl) first rest
  platformDirectory := lastSet_foldl_option (fun _ _ => rfl) first rest

/-! ## Groups of layers -/

/-- A way to put layers together: a single layer, or one group laid over another. -/
inductive Grouping
  | layer (settings : Settings)
  | stack (below above : Grouping)

namespace Grouping

/-- The layers of a group, from the lowest to the highest. -/
def layers : Grouping → List Settings
  | layer settings => [settings]
  | stack below above => below.layers ++ above.layers

/-- The settings of a group, merged as it is put together. -/
def merged : Grouping → Settings
  | layer settings => settings
  | stack below above => below.merged.merge above.merged

/-- Layers laid over settings one by one are laid over them at once, merged from nothing. -/
theorem foldl_merge (below : Settings) (rest : List Settings) :
    rest.foldl merge below = below.merge (rest.foldl merge unset) := by
  induction rest using List.reverseRecOn with
  | nil => rfl
  | append_singleton rest last ih =>
    simp only [List.foldl_append, List.foldl_cons, List.foldl_nil]
    rw [ih, merge_assoc]

theorem merged_eq_foldl (group : Grouping) : group.merged = group.layers.foldl merge unset := by
  induction group with
  | layer settings => exact (unset_merge settings).symm
  | stack below above ihBelow ihAbove =>
    rw [merged, layers, List.foldl_append, foldl_merge _ above.layers, ← ihBelow, ← ihAbove]

theorem merged_eq_of_layers_eq {group other : Grouping} (h : group.layers = other.layers) :
    group.merged = other.merged := by
  rw [merged_eq_foldl, merged_eq_foldl, h]

end Grouping

end Settings

end AppBoundary
