import CertCatalog.Files
import CertCatalog.Proofs.Files.Path
import CertCatalog.Proofs.Listing
import Mathlib.Data.List.Nodup

/-!
# Trees of files and folders

The entries of a folder in a tree have different names. Then names lead to one node each, the order
by name is strict, and placing a node changes nothing but what its own names lead to.
-/

namespace CertCatalog.Files.Node

/-- Names in a folder are names, no two of them are the same, and so in every folder below. -/
inductive IsTree : Node → Prop
  | file (content : Option String) : IsTree (file content)
  | folder {entries : List (String × Node)} (nodup : (entries.map (·.1)).Nodup)
      (names : ∀ entry ∈ entries, IsName entry.1) (trees : ∀ entry ∈ entries, IsTree entry.2) :
      IsTree (folder entries)

variable {n : Node} {name : String}

theorem isTree_empty : (folder []).IsTree :=
  .folder List.nodup_nil (fun _ hentry ↦ absurd hentry List.not_mem_nil)
    fun _ hentry ↦ absurd hentry List.not_mem_nil

/-! ### Entries of a folder -/

/-- No two entries have the same name. -/
theorem IsTree.nodup_names (h : n.IsTree) : (n.entries.map (·.1)).Nodup := by
  cases h with
  | file content => exact List.nodup_nil
  | folder nodup => exact nodup

theorem IsTree.isName (h : n.IsTree) {entry : String × Node} (hentry : entry ∈ n.entries) :
    IsName entry.1 := by
  cases h with
  | file content => cases hentry
  | folder _ names => exact names entry hentry

/-- An entry is a tree. -/
theorem IsTree.entry (h : n.IsTree) {entry : String × Node} (hentry : entry ∈ n.entries) :
    entry.2.IsTree := by
  cases h with
  | file content => cases hentry
  | folder _ _ trees => exact trees entry hentry

/-- A name leads to the entries that have it. -/
theorem IsTree.child?_eq_some_iff (h : n.IsTree) {child : Node} :
    n.child? name = some child ↔ (name, child) ∈ n.entries := by
  rw [child?, List.lookup_eq_some_iff]
  constructor
  · rintro ⟨before, after, hentries, -⟩
    rw [hentries]
    exact List.mem_append_right _ List.mem_cons_self
  · intro hentry
    obtain ⟨before, after, hentries⟩ := List.append_of_mem hentry
    refine ⟨before, after, hentries, fun entry hbefore ↦ ?_⟩
    have hnodup := h.nodup_names
    rw [hentries, List.map_append, List.map_cons] at hnodup
    have hne := (List.nodup_append.mp hnodup).2.2 entry.1 (List.mem_map_of_mem hbefore) name
      List.mem_cons_self
    simpa using Ne.symm hne

/-- The entries by name rise strictly. -/
theorem IsTree.pairwise_sortedEntries (h : n.IsTree) :
    n.sortedEntries.Pairwise fun a b ↦ a.1 < b.1 := by
  have htrans (a b c : String × Node) (hab : textLe a.1 b.1 = true)
      (hbc : textLe b.1 c.1 = true) : textLe a.1 c.1 = true :=
    textLe_trans a.1 b.1 c.1 hab hbc
  have htotal (a b : String × Node) : (textLe a.1 b.1 || textLe b.1 a.1) = true :=
    textLe_total a.1 b.1
  rw [sortedEntries]
  exact pairwise_mergeSort_of_nodup htrans htotal (fun _ _ ↦ lt_of_textLe) h.nodup_names

theorem mem_sortedEntries {entry : String × Node} :
    entry ∈ n.sortedEntries ↔ entry ∈ n.entries :=
  List.mem_mergeSort

/-! ### Names that lead to a node -/

/-- The node that names lead to from a folder. -/
def descendant? (n : Node) : List String → Option Node
  | [] => some n
  | name :: names => (n.child? name).bind (descendant? · names)

/-- Names lead on from what the ones before them lead to. -/
theorem descendant?_append (n : Node) (names more : List String) :
    n.descendant? (names ++ more) = (n.descendant? names).bind (·.descendant? more) := by
  induction names generalizing n with
  | nil => rfl
  | cons name names ih =>
    rw [List.cons_append, descendant?, descendant?]
    cases n.child? name with
    | none => rfl
    | some child => exact ih child

theorem descendant?_singleton (n : Node) (name : String) :
    n.descendant? [name] = n.child? name := by
  rw [descendant?]
  cases n.child? name <;> rfl

/-- What names lead to in a tree is a tree. -/
theorem IsTree.descendant {names : List String} {m : Node} (h : n.IsTree)
    (hfound : n.descendant? names = some m) : m.IsTree := by
  induction names generalizing n with
  | nil =>
    cases hfound
    exact h
  | cons name names ih =>
    obtain ⟨child, hchild, hrest⟩ := Option.bind_eq_some_iff.mp hfound
    exact ih (h.entry (h.child?_eq_some_iff.mp hchild)) hrest

/-! ### Placing a node -/

private theorem lookup_filter_append (entries : List (String × Node)) (name : String) (child : Node)
    (other : String) :
    (entries.filter (·.1 != name) ++ [(name, child)]).lookup other =
      if other = name then some child else entries.lookup other := by
  induction entries with
  | nil =>
    rw [List.filter_nil, List.nil_append, List.lookup_cons]
    by_cases hother : other = name
    · rw [if_pos hother, beq_iff_eq.mpr hother]
    · rw [if_neg hother, beq_eq_false_iff_ne.mpr hother]
  | cons entry entries ih =>
    by_cases hentry : entry.1 = name
    · rw [List.filter_cons_of_neg (by simpa using hentry), ih, List.lookup_cons]
      by_cases hother : other = name
      · rw [if_pos hother, if_pos hother]
      · rw [beq_eq_false_iff_ne.mpr (hentry ▸ hother)]
    · rw [List.filter_cons_of_pos (by simpa using hentry), List.cons_append, List.lookup_cons, ih,
        List.lookup_cons]
      by_cases hother : other = entry.1
      · have hne : other ≠ name := by
          rw [hother]
          exact hentry
        rw [beq_iff_eq.mpr hother, if_neg hne, if_neg hne]
      · rw [beq_eq_false_iff_ne.mpr hother]

/-- Where a node is placed under names, there is a folder. -/
theorem isFolder_place {names : List String} (h : names ≠ []) (n leaf : Node) :
    (n.place names leaf).isFolder = true := by
  cases names with
  | nil => exact absurd rfl h
  | cons name names => rfl

/-- A node is placed under the first of its names, and all else stays. -/
theorem child?_place (n : Node) (name : String) (names : List String) (leaf : Node)
    (other : String) :
    (n.place (name :: names) leaf).child? other =
      if other = name then some (place ((n.child? name).getD (folder [])) names leaf)
      else n.child? other := by
  rw [place, child?, entries, lookup_filter_append]
  rfl

/-- Other names in the same folder lead to what they led to before. -/
theorem descendant?_place_of_ne {other : String} (hne : other ≠ name) (names : List String)
    (n leaf : Node) :
    (n.place (names ++ [name]) leaf).descendant? (names ++ [other]) =
      n.descendant? (names ++ [other]) := by
  induction names generalizing n with
  | nil =>
    rw [List.nil_append, List.nil_append, descendant?_singleton, descendant?_singleton,
      child?_place, if_neg hne]
  | cons first names ih =>
    rw [List.cons_append, List.cons_append, descendant?, descendant?, child?_place, if_pos rfl,
      Option.bind_some, ih]
    cases n.child? first with
    | none => cases names <;> rfl
    | some child => rfl

/-- A tree in which a tree is placed is a tree. -/
theorem IsTree.place {leaf : Node} (h : n.IsTree) (hleaf : leaf.IsTree) {names : List String}
    (hnames : ∀ name ∈ names, IsName name) : (n.place names leaf).IsTree := by
  induction names generalizing n with
  | nil => exact hleaf
  | cons name names ih =>
    rw [List.forall_mem_cons] at hnames
    have hchild : ((n.child? name).getD (Node.folder [])).IsTree := by
      cases hfound : n.child? name with
      | none => exact isTree_empty
      | some child => exact h.entry (h.child?_eq_some_iff.mp hfound)
    have hkept : ∀ entry ∈ n.entries.filter (·.1 != name), entry ∈ n.entries := fun entry hentry ↦
      (List.mem_filter.mp hentry).1
    refine .folder ?_ ?_ ?_
    · rw [List.map_append, List.map_singleton, ← List.concat_eq_append]
      refine List.Nodup.concat (fun hmem ↦ ?_) (h.nodup_names.sublist (List.filter_sublist.map _))
      obtain ⟨entry, hentry, hname⟩ := List.mem_map.mp hmem
      exact absurd hname (by simpa using (List.mem_filter.mp hentry).2)
    · rw [List.forall_mem_append, List.forall_mem_singleton]
      exact ⟨fun entry hentry ↦ h.isName (hkept entry hentry), hnames.1⟩
    · rw [List.forall_mem_append, List.forall_mem_singleton]
      exact ⟨fun entry hentry ↦ h.entry (hkept entry hentry), ih hchild hnames.2⟩

end CertCatalog.Files.Node
