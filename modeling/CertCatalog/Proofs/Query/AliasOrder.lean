import CertCatalog.Entry.Normal
import CertCatalog.Search
import CertCatalog.Settings

/-!
# Order of key aliases

Further aliases are put into the table one after the other, each in trimmed lowercase, and the last
pair for an alias counts. Pairs that are written differently may be the same alias then, so the
order of the pairs does not matter exactly when such pairs stand for the same key.
-/

namespace CertCatalog

namespace KeyAliases

/-- The alias of a pair, as it stands in the table. -/
def aliasOf (pair : String × String) : String := Text.lower (Text.trim pair.1)

/-- The key of a pair, as it stands in the table. -/
def keyOf (pair : String × String) : String := Text.lower (Text.trim pair.2)

/-- A pair is put into the table: neither side is blank. -/
def Counts (pair : String × String) : Prop := aliasOf pair ≠ "" ∧ keyOf pair ≠ ""

instance (pair : String × String) : Decidable (Counts pair) :=
  inferInstanceAs (Decidable (_ ∧ _))

/-- The pairs that count for an alias all stand for one key. -/
def AreUnambiguous (pairs : List (String × String)) : Prop :=
  ∀ p ∈ pairs, ∀ q ∈ pairs, Counts p → Counts q → aliasOf p = aliasOf q → keyOf p = keyOf q

/-! ### Resolution -/

private theorem insert_eq (aliases : KeyAliases) (pair : String × String) :
    aliases.insert pair =
      if (aliasOf pair).isEmpty || (keyOf pair).isEmpty then aliases
      else ⟨(aliasOf pair, keyOf pair) :: aliases.pairs⟩ :=
  rfl

private theorem resolve_insert_of_counts {pair : String × String} (h : Counts pair)
    (aliases : KeyAliases)
    (name : String) :
    (aliases.insert pair).resolve name =
      if name = aliasOf pair then keyOf pair else aliases.resolve name := by
  have hblank : ((aliasOf pair).isEmpty || (keyOf pair).isEmpty) = false := by simp [h.1, h.2]
  rw [insert_eq, hblank, if_neg Bool.false_ne_true, resolve, resolve, List.lookup_cons]
  by_cases hname : name = aliasOf pair
  · rw [if_pos hname, beq_iff_eq.mpr hname]
    rfl
  · rw [if_neg hname, beq_eq_false_iff_ne.mpr hname]

private theorem insert_of_not_counts {pair : String × String} (h : ¬Counts pair)
    (aliases : KeyAliases) :
    aliases.insert pair = aliases := by
  have hblank : ((aliasOf pair).isEmpty || (keyOf pair).isEmpty) = true := by
    rw [Counts, Decidable.not_and_iff_or_not, Decidable.not_not, Decidable.not_not] at h
    rcases h with h | h <;> simp [h]
  rw [insert_eq, if_pos hblank]

/-- A name stands for the key of a pair that counts for it, or for what it stood for before when
there is no such pair. -/
theorem resolve_foldl_insert (pairs : List (String × String)) (aliases : KeyAliases)
    (name : String) :
    (∃ pair ∈ pairs, Counts pair ∧ aliasOf pair = name ∧
        (pairs.foldl insert aliases).resolve name = keyOf pair) ∨
      (∀ pair ∈ pairs, Counts pair → aliasOf pair ≠ name) ∧
        (pairs.foldl insert aliases).resolve name = aliases.resolve name := by
  induction pairs generalizing aliases with
  | nil => exact .inr ⟨fun _ h ↦ absurd h List.not_mem_nil, rfl⟩
  | cons first pairs ih =>
    rw [List.foldl_cons, List.forall_mem_cons]
    rcases ih (aliases.insert first) with ⟨pair, hpair, hlast⟩ | ⟨hnone, hresolve⟩
    · exact .inl ⟨pair, List.mem_cons_of_mem _ hpair, hlast⟩
    · by_cases hcounts : Counts first
      · rw [resolve_insert_of_counts hcounts] at hresolve
        by_cases hname : name = aliasOf first
        · rw [if_pos hname] at hresolve
          exact .inl ⟨first, List.mem_cons_self, hcounts, hname.symm, hresolve⟩
        · rw [if_neg hname] at hresolve
          exact .inr ⟨⟨fun _ ↦ Ne.symm hname, hnone⟩, hresolve⟩
      · rw [insert_of_not_counts hcounts] at hresolve ⊢
        exact .inr ⟨⟨fun hfirst ↦ (hcounts hfirst).elim, hnone⟩, hresolve⟩

private theorem resolve_extended_append_singleton {pair : String × String} (h : Counts pair)
    (pairs : List (String × String)) :
    (extended (pairs ++ [pair])).resolve (aliasOf pair) = keyOf pair := by
  rw [extended, List.foldl_append, List.foldl_cons, List.foldl_nil, resolve_insert_of_counts h,
    if_pos rfl]

/-! ### Order -/

variable {extra order order' : List (String × String)}

/-- In any order, a name stands for the key of one of the pairs that count for it, or for what the
built-in aliases say. -/
theorem resolve_extended_of_perm (h : order.Perm extra) (name : String) :
    (∃ pair ∈ extra, Counts pair ∧ aliasOf pair = name ∧
        (extended order).resolve name = keyOf pair) ∨
      (∀ pair ∈ extra, Counts pair → aliasOf pair ≠ name) ∧
        (extended order).resolve name = builtIn.resolve name := by
  rcases resolve_foldl_insert order builtIn name with ⟨pair, hpair, hlast⟩ | ⟨hnone, hresolve⟩
  · exact .inl ⟨pair, h.subset hpair, hlast⟩
  · exact .inr ⟨fun pair hpair ↦ hnone pair (h.symm.subset hpair), hresolve⟩

/-- Every pair that counts decides about its alias in some order. -/
theorem exists_perm_resolve_extended {pair : String × String} (hpair : pair ∈ extra)
    (h : Counts pair) :
    ∃ order, order.Perm extra ∧ (extended order).resolve (aliasOf pair) = keyOf pair := by
  obtain ⟨before, after, rfl⟩ := List.append_of_mem hpair
  refine ⟨before ++ after ++ [pair], ?_, resolve_extended_append_singleton h _⟩
  rw [List.append_assoc]
  exact (List.perm_append_singleton pair after).append_left before

/-- Unambiguous pairs mean the same in any order. -/
theorem resolve_extended_eq_of_unambiguous (h : AreUnambiguous extra) (horder : order.Perm extra)
    (horder' : order'.Perm extra) (name : String) :
    (extended order).resolve name = (extended order').resolve name := by
  rcases resolve_extended_of_perm horder name with ⟨p, hp, hcounts, halias, hkey⟩ |
    ⟨hnone, hbuiltIn⟩ <;>
    rcases resolve_extended_of_perm horder' name with ⟨q, hq, hcounts', halias', hkey'⟩ |
      ⟨hnone', hbuiltIn'⟩
  · rw [hkey, hkey']
    exact h p hp q hq hcounts hcounts' (halias.trans halias'.symm)
  · exact absurd halias (hnone' p hp hcounts)
  · exact absurd halias' (hnone q hq hcounts')
  · rw [hbuiltIn, hbuiltIn']

end KeyAliases

/-- A query depends on the aliases through what the names stand for. -/
theorem Query.ofText_congr {aliases aliases' : KeyAliases}
    (h : ∀ name, aliases.resolve name = aliases'.resolve name) (s : String) :
    Query.ofText aliases s = Query.ofText aliases' s := by
  have htoken : Term.ofToken aliases = Term.ofToken aliases' := by
    funext token
    simp only [Term.ofToken, h]
  simp only [ofText, ofTokens, htoken]

namespace KeyAliases

/-- Further aliases mean the same in any order exactly when they are unambiguous. In every order a
name stands for the key of one of the pairs that count for it, each of these keys comes up in some
order, and names without such a pair keep their built-in meaning. Unambiguous aliases give the same
answer to every search in any order. -/
theorem extended_in_any_order_iff (extra : List (String × String)) :
    ((∀ order order', order.Perm extra → order'.Perm extra →
        ∀ name, (extended order).resolve name = (extended order').resolve name) ↔
      AreUnambiguous extra) ∧
    (∀ order, order.Perm extra → ∀ name,
      (∃ pair ∈ extra, Counts pair ∧ aliasOf pair = name ∧
          (extended order).resolve name = keyOf pair) ∨
        (∀ pair ∈ extra, Counts pair → aliasOf pair ≠ name) ∧
          (extended order).resolve name = builtIn.resolve name) ∧
    (∀ pair ∈ extra, Counts pair →
      ∃ order, order.Perm extra ∧ (extended order).resolve (aliasOf pair) = keyOf pair) ∧
    (AreUnambiguous extra → ∀ order order', order.Perm extra → order'.Perm extra →
      ∀ records query criteria cap, search (extended order) records query criteria cap =
        search (extended order') records query criteria cap) := by
  refine ⟨⟨fun hsame p hp q hq hcounts hcounts' halias ↦ ?_, fun h order order' horder horder' ↦
    resolve_extended_eq_of_unambiguous h horder horder'⟩, fun order horder ↦
    resolve_extended_of_perm horder, fun pair hpair ↦ exists_perm_resolve_extended hpair, ?_⟩
  · -- Two pairs for one alias are the last ones of two orders, which must agree.
    obtain ⟨order, horder, hkey⟩ := exists_perm_resolve_extended hp hcounts
    obtain ⟨order', horder', hkey'⟩ := exists_perm_resolve_extended hq hcounts'
    rw [← hkey, ← hkey', ← halias]
    exact hsame order order' horder horder' (aliasOf p)
  -- A search uses the aliases only to read its query.
  · intro h order order' horder horder' records query criteria cap
    rw [search, search,
      Query.ofText_congr (resolve_extended_eq_of_unambiguous h horder horder') query]

/-- One alias is written in two ways with the same key, one of them an alias that is built in, and a
pair is ignored. -/
theorem extended_in_any_order_iff_of_spellings :
    let extra := [("Vendor ", "Level"), ("team", "rolegroup"), ("vendor", " level"), ("team", "\t")]
    AreUnambiguous extra ∧ extra.reverse.Perm extra ∧
    (extended extra.reverse).resolve "vendor" = (extended extra).resolve "vendor" ∧
    search (extended extra.reverse) [] "team:blue" .none none =
      search (extended extra) [] "team:blue" .none none := by
  intro extra
  have hunambiguous : AreUnambiguous extra := by
    unfold AreUnambiguous
    decide +kernel
  have hreverse : extra.reverse.Perm extra := List.reverse_perm extra
  obtain ⟨hiff, -, -, hsearch⟩ := extended_in_any_order_iff extra
  exact ⟨hunambiguous, hreverse, hiff.mpr hunambiguous _ _ hreverse (.refl _) "vendor",
    hsearch hunambiguous _ _ hreverse (.refl _) [] "team:blue" .none none⟩

/-- Settings hold two keys that differ in case only. They are the same alias, and the order of the
table decides what it stands for and what a search finds. -/
theorem extended_depends_on_order :
    let table := [("Org", "provider"), ("org", "domain")]
    let giac := (Entry.blank.setScalar .provider (some (.text "GIAC"))).toRecord
    (Settings.ofText "[search_aliases]\nOrg = \"provider\"\norg = \"domain\"\n").searchAliases =
        table ∧
      (table.map (·.1)).Nodup ∧ table.reverse.Perm table ∧
      (extended table).resolve "org" = "domain" ∧
      (extended table.reverse).resolve "org" = "provider" ∧
      (search (extended table) [giac] "org:giac" .none none).total = 0 ∧
      (search (extended table.reverse) [giac] "org:giac" .none none).total = 1 := by
  intro table giac
  exact ⟨by decide +kernel, by decide, List.reverse_perm table, by decide +kernel,
    by decide +kernel, by decide +kernel, by decide +kernel⟩

end KeyAliases
end CertCatalog
