import CertCatalog.Entry.Normal
import CertCatalog.Proofs.Grouping

/-!
# Goals by rules

Four rules infer goals, each from one part of a record in lowercase: its role groups, its domain,
its sub-areas, and its tracks and tags together. A record has the goals of all rules, and the
default goal only when no rule gives it one. So goals depend on what the parts hold, not on how
they list it, and further entries add goals to those of the rules.
-/

namespace CertCatalog

/-! ### Sets of goals -/

namespace GoalSet

@[simp] theorem contains_empty (g : Goal) : empty.contains g = false := contains_ofPred _ g

@[simp] theorem contains_singleton (g h : Goal) : (singleton g).contains h = (h == g) :=
  contains_ofPred _ h

@[simp] theorem contains_union (s t : GoalSet) (g : Goal) :
    (s.union t).contains g = (s.contains g || t.contains g) :=
  contains_ofPred _ g

end GoalSet

namespace Record

/-! ### Rules -/

/-- Some rule gives the record a goal: for a role group, the domain, a sub-area, or a hint in a
track or tag. -/
inductive Fires (r : Record) : Goal → Prop
  | roleGroup {s : String} {g : Goal} (hs : s ∈ r.roleGroups.map Text.lower)
      (h : roleGroupGoal? s = some g) : r.Fires g
  | domain {part : String} {g : Goal} (hpart : part ∈ domainHints g)
      (h : Text.contains (Text.lower r.domainArea) part = true) : r.Fires g
  | subArea {s : String} {g : Goal} (hs : s ∈ r.subAreas.map Text.lower)
      (h : subAreaGoal? s = some g) : r.Fires g
  | hint {s part : String} {g : Goal} (hs : s ∈ (r.tracks ++ r.tags).map Text.lower)
      (hpart : part ∈ Vocabulary.goalHints g) (h : Text.contains s part = true) : r.Fires g

variable {r r' added : Record} {g : Goal}

/-- The suggested goals are those for which a rule fires. -/
theorem contains_suggestedGoals_iff : r.suggestedGoals.contains g = true ↔ r.Fires g := by
  simp only [suggestedGoals, GoalSet.contains_ofPred, suggests, containsAny, Bool.or_eq_true,
    List.any_eq_true, beq_iff_eq]
  constructor
  · rintro (((⟨s, hs, h⟩ | ⟨part, hpart, h⟩) | ⟨s, hs, h⟩) | ⟨s, hs, part, hpart, h⟩)
    · exact .roleGroup (List.mem_map_of_mem hs) h
    · exact .domain hpart h
    · exact .subArea (List.mem_map_of_mem hs) h
    · exact .hint (List.mem_map_of_mem hs) hpart h
  · intro h
    cases h with
    | roleGroup hs h =>
      obtain ⟨s, hmem, rfl⟩ := List.mem_map.mp hs
      exact .inl (.inl (.inl ⟨s, hmem, h⟩))
    | domain hpart h => exact .inl (.inl (.inr ⟨_, hpart, h⟩))
    | subArea hs h =>
      obtain ⟨s, hmem, rfl⟩ := List.mem_map.mp hs
      exact .inl (.inr ⟨s, hmem, h⟩)
    | hint hs hpart h =>
      obtain ⟨s, hmem, rfl⟩ := List.mem_map.mp hs
      exact .inr ⟨s, hmem, _, hpart, h⟩

/-! ### The default goal -/

private theorem classify_of_ne_empty (h : r.suggestedGoals ≠ .empty) :
    r.classify = r.suggestedGoals :=
  if_neg h

private theorem classify_of_eq_empty (h : r.suggestedGoals = .empty) :
    r.classify = .singleton defaultGoal :=
  if_pos h

/-- A record is never without a goal. -/
theorem classify_ne_empty (r : Record) : r.classify ≠ .empty := by
  intro hempty
  obtain ⟨g, hg⟩ := r.exists_mem_classify
  simp [hempty] at hg

private theorem contains_classify_of_suggested (h : r.suggestedGoals.contains g = true) :
    r.classify.contains g = true := by
  have hne : r.suggestedGoals ≠ .empty := by
    rintro hempty
    simp [hempty] at h
  rwa [classify_of_ne_empty hne]

private theorem eq_default_of_not_suggested (h : r.classify.contains g = true)
    (hg : r.suggestedGoals.contains g = false) : g = defaultGoal ∧ r.suggestedGoals = .empty := by
  by_cases hempty : r.suggestedGoals = .empty
  · rw [classify_of_eq_empty hempty] at h
    exact ⟨by simpa using h, hempty⟩
  · rw [classify_of_ne_empty hempty, hg] at h
    cases h

/-! ### What goals depend on -/

/-- The sources of goals in a record occur in another one: the same lower-cased domain, and in
lowercase, its role groups, its sub-areas, and its tracks and tags together. -/
structure SourcesWithin (r r' : Record) : Prop where
  domainArea : Text.lower r.domainArea = Text.lower r'.domainArea
  roleGroups : r.roleGroups.map Text.lower ⊆ r'.roleGroups.map Text.lower
  subAreas : r.subAreas.map Text.lower ⊆ r'.subAreas.map Text.lower
  values : (r.tracks ++ r.tags).map Text.lower ⊆ (r'.tracks ++ r'.tags).map Text.lower

/-- Records whose sources of goals are the same sets. -/
def SameSources (r r' : Record) : Prop := r.SourcesWithin r' ∧ r'.SourcesWithin r

/-- A rule that fires for a record fires wherever its sources occur. -/
theorem Fires.mono (hg : r.Fires g) (h : r.SourcesWithin r') : r'.Fires g := by
  cases hg with
  | roleGroup hs hgoal => exact .roleGroup (h.roleGroups hs) hgoal
  | domain hpart hgoal => exact .domain hpart (h.domainArea ▸ hgoal)
  | subArea hs hgoal => exact .subArea (h.subAreas hs) hgoal
  | hint hs hpart hgoal => exact .hint (h.values hs) hpart hgoal

/-- Records with the same sources have the same goals. -/
theorem SameSources.goals_eq (h : r.SameSources r') :
    r.suggestedGoals = r'.suggestedGoals ∧ r.classify = r'.classify := by
  have hsuggested : r.suggestedGoals = r'.suggestedGoals := by
    ext g
    rw [Bool.eq_iff_iff, contains_suggestedGoals_iff, contains_suggestedGoals_iff]
    exact ⟨fun hg ↦ hg.mono h.1, fun hg ↦ hg.mono h.2⟩
  exact ⟨hsuggested, by rw [classify, classify, hsuggested]⟩

private theorem sameSources_of_perm {tracks tags : List String}
    (h : (tracks ++ tags).Perm (r.tracks ++ r.tags)) :
    SameSources { r with tracks := tracks, tags := tags } r :=
  ⟨⟨rfl, List.Subset.refl _, List.Subset.refl _, (h.map Text.lower).subset⟩,
    ⟨rfl, List.Subset.refl _, List.Subset.refl _, (h.map Text.lower).symm.subset⟩⟩

/-! ### Further entries -/

/-- The record with the role groups, sub-areas, tracks and tags of another one behind its own. -/
def extend (r added : Record) : Record :=
  { r with
    roleGroups := r.roleGroups ++ added.roleGroups
    subAreas := r.subAreas ++ added.subAreas
    tracks := r.tracks ++ added.tracks
    tags := r.tags ++ added.tags }

private theorem mem_values_extend {s : String} :
    s ∈ ((r.extend added).tracks ++ (r.extend added).tags).map Text.lower ↔
      s ∈ (r.tracks ++ r.tags).map Text.lower ∨
        s ∈ (added.tracks ++ added.tags).map Text.lower := by
  simp only [extend, List.map_append, List.mem_append]
  exact or_or_or_comm

private theorem sourcesWithin_extend (r added : Record) : r.SourcesWithin (r.extend added) where
  domainArea := rfl
  roleGroups := List.map_subset _ (List.subset_append_left _ _)
  subAreas := List.map_subset _ (List.subset_append_left _ _)
  values _ hs := mem_values_extend.mpr (.inl hs)

private theorem sourcesWithin_extend_added (h : added.domainArea = r.domainArea) :
    added.SourcesWithin (r.extend added) where
  domainArea := congrArg Text.lower h
  roleGroups := List.map_subset _ (List.subset_append_right _ _)
  subAreas := List.map_subset _ (List.subset_append_right _ _)
  values _ hs := mem_values_extend.mpr (.inr hs)

private theorem fires_extend_iff (h : added.domainArea = r.domainArea) :
    (r.extend added).Fires g ↔ r.Fires g ∨ added.Fires g := by
  constructor
  · intro hg
    cases hg with
    | roleGroup hs hgoal =>
      rw [extend, List.map_append, List.mem_append] at hs
      exact hs.imp (.roleGroup · hgoal) (.roleGroup · hgoal)
    | domain hpart hgoal => exact .inl (.domain hpart hgoal)
    | subArea hs hgoal =>
      rw [extend, List.map_append, List.mem_append] at hs
      exact hs.imp (.subArea · hgoal) (.subArea · hgoal)
    | hint hs hpart hgoal =>
      exact (mem_values_extend.mp hs).imp (.hint · hpart hgoal) (.hint · hpart hgoal)
  · rintro (hg | hg)
    · exact hg.mono (r.sourcesWithin_extend added)
    · exact hg.mono (sourcesWithin_extend_added h)

/-- The suggested goals of an extended record are those of the old and of the new entries. -/
theorem suggestedGoals_extend (h : added.domainArea = r.domainArea) :
    (r.extend added).suggestedGoals = r.suggestedGoals.union added.suggestedGoals := by
  ext g
  rw [Bool.eq_iff_iff, GoalSet.contains_union, Bool.or_eq_true, contains_suggestedGoals_iff,
    contains_suggestedGoals_iff, contains_suggestedGoals_iff, fires_extend_iff h]

/-- Further entries take no goal from a record but a default one. -/
theorem eq_default_of_lost (added : Record) (h : r.classify.contains g = true)
    (hlost : (r.extend added).classify.contains g = false) :
    g = defaultGoal ∧ r.suggestedGoals = .empty := by
  apply eq_default_of_not_suggested h
  rw [← Bool.not_eq_true]
  intro hg
  have hextend : (r.extend added).suggestedGoals.contains g = true :=
    contains_suggestedGoals_iff.mpr
      ((contains_suggestedGoals_iff.mp hg).mono (r.sourcesWithin_extend added))
  rw [contains_classify_of_suggested hextend] at hlost
  cases hlost

/-- Goals are the union of what four rules give, with a default of last resort. Suggested goals are
the goals of the record, which has the default goal alone without any, so it never has none. Goals
depend on the lower-cased domain and on the sets of lower-cased role groups, sub-areas, and tracks
and tags together, however the latter are spread. Further entries add the goals that they suggest to
the suggested ones, so they take no goal away but a blue one that was only the default. -/
theorem classify_by_rules (r : Record) :
    (∀ g, r.suggestedGoals.contains g = true ↔ r.Fires g) ∧
    ((r.suggestedGoals ≠ .empty → r.classify = r.suggestedGoals) ∧
      (r.suggestedGoals = .empty → r.classify = .singleton .blue) ∧ r.classify ≠ .empty) ∧
    (∀ r' : Record, r.SameSources r' →
      r.suggestedGoals = r'.suggestedGoals ∧ r.classify = r'.classify) ∧
    (∀ tracks tags : List String, (tracks ++ tags).Perm (r.tracks ++ r.tags) →
      { r with tracks := tracks, tags := tags }.suggestedGoals = r.suggestedGoals ∧
      { r with tracks := tracks, tags := tags }.classify = r.classify) ∧
    (∀ added : Record, added.domainArea = r.domainArea →
      (r.extend added).suggestedGoals = r.suggestedGoals.union added.suggestedGoals) ∧
    ∀ (added : Record) (g : Goal), r.classify.contains g = true →
      (r.extend added).classify.contains g = false → g = .blue ∧ r.suggestedGoals = .empty := by
  refine ⟨fun g ↦ contains_suggestedGoals_iff,
    ⟨classify_of_ne_empty, classify_of_eq_empty, r.classify_ne_empty⟩, fun r' h ↦ h.goals_eq,
    fun tracks tags h ↦ (sameSources_of_perm h).goals_eq,
    fun added h ↦ suggestedGoals_extend h, fun added g h hlost ↦ eq_default_of_lost added h hlost⟩

/-- Sources in another order, case and number, values that change places, and a default that gives
way to new entries while nothing else does. -/
theorem classify_by_rules_default_gives_way :
    let r := { Entry.blank.toRecord with
      roleGroups := ["Red Team Ops", "IAM"], tracks := ["Azure"], tags := ["audit", "dfir"] }
    let r' := { r with
      roleGroups := ["iam", "RED team ops", "IAM"], tracks := ["AUDIT", "audit"],
      tags := ["dfir", "azure"] }
    let plain := Entry.blank.toRecord
    let added := { plain with roleGroups := ["Management"] }
    r.SameSources r' ∧ r.classify = r'.classify ∧
    (["audit"] ++ ["dfir", "Azure"]).Perm (r.tracks ++ r.tags) ∧
    { r with tracks := ["audit"], tags := ["dfir", "Azure"] }.classify = r.classify ∧
    r.classify = .ofList [.red, .grc, .cloud] ∧
    added.domainArea = plain.domainArea ∧
    (plain.extend added).suggestedGoals = plain.suggestedGoals.union added.suggestedGoals ∧
    plain.classify.contains .blue = true ∧ (plain.extend added).classify.contains .blue = false ∧
    plain.suggestedGoals = .empty := by
  intro r r' plain added
  have hsame : r.SameSources r' := by
    refine ⟨⟨rfl, ?_, ?_, ?_⟩, ⟨rfl, ?_, ?_, ?_⟩⟩ <;> decide
  have hperm : (["audit"] ++ ["dfir", "Azure"]).Perm (r.tracks ++ r.tags) := by decide
  have hdomain : added.domainArea = plain.domainArea := rfl
  have hblue : plain.classify.contains .blue = true := by decide
  have hlost : (plain.extend added).classify.contains .blue = false := by decide
  obtain ⟨-, -, hsources, hspread, -, -⟩ := classify_by_rules r
  obtain ⟨-, -, -, -, hunion, hdefault⟩ := classify_by_rules plain
  exact ⟨hsame, (hsources r' hsame).2, hperm, (hspread _ _ hperm).2, by decide, hdomain,
    hunion added hdomain, hblue, hlost, (hdefault added .blue hblue hlost).2⟩

end Record
end CertCatalog
