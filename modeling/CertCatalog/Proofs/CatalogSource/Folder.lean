import CertCatalog.Audit
import CertCatalog.Proofs.CatalogSource.EntryFiles
import CertCatalog.Proofs.Text.ByteOrder
import Mathlib.Data.Set.Card

/-!
# Catalog folders

Loading a catalog folder never fails. It accounts for each entry file with one entry or one problem,
in the byte order of the names, and one file has no influence on what the others yield.
-/

namespace CertCatalog.CatalogSource

/-- What a file at a path yields: an entry when its content is a text that reads as one, else a
problem. -/
inductive Yields (formats : Formats) (path : String) : Option String → FileOutcome → Prop
  | entry {text : String} {e : Entry} (h : formats.entry text = .ok e) :
      Yields formats path (some text) (.entry ⟨path, true, e⟩)
  | malformed {text reason : String} (h : formats.entry text = .error reason) :
      Yields formats path (some text) (.problem ⟨path, reason⟩)
  | unreadable : Yields formats path none (.problem ⟨path, (LoadError.unreadable path).message⟩)

/-- A source accounts for the files of a catalog folder. Each entry file has one entry or one
problem under its path, all entries and problems belong to such a file, and both are in byte order
of the file names. -/
structure AccountsFor (source : CatalogSource) (formats : Formats) (path : String)
    (tree : Files.Node) : Prop where
  outcome : ∀ name content, IsEntryFile tree name content →
    ∃ outcome, Yields formats (entryPath path tree name) content outcome ∧
      source.entries.filter (·.path == entryPath path tree name) = outcome.sourced?.toList ∧
      source.problems.filter (·.path == entryPath path tree name) = outcome.problem?.toList
  entry_from_file : ∀ e ∈ source.entries,
    ∃ name content, IsEntryFile tree name content ∧ e.path = entryPath path tree name
  problem_from_file : ∀ p ∈ source.problems,
    ∃ name content, IsEntryFile tree name content ∧ p.path = entryPath path tree name
  entries_in_order : source.entries.Pairwise fun a b ↦
    Text.bytes (Files.fileLabel a.path) < Text.bytes (Files.fileLabel b.path)
  problems_in_order : source.problems.Pairwise fun a b ↦
    Text.bytes (Files.fileLabel a.path) < Text.bytes (Files.fileLabel b.path)

/-- Sources agree on the information and on all that does not come from one path. -/
structure AgreeBeside (path : String) (source source' : CatalogSource) : Prop where
  info : source.info = source'.info
  entries : source.entries.filter (·.path != path) = source'.entries.filter (·.path != path)
  problems : source.problems.filter (·.path != path) = source'.problems.filter (·.path != path)

variable {formats : Formats} {path : String} {tree : Files.Node} {name : String}
  {content : Option String}

/-! ### Outcomes -/

/-- Reading a file gives what it yields. -/
theorem yields_readEntryFile (formats : Formats) (path : String) (content : Option String) :
    Yields formats path content (readEntryFile formats path content) := by
  cases content with
  | none => exact .unreadable
  | some text =>
    cases hread : formats.entry text with
    | ok e =>
      rw [readEntryFile, readContent, hread]
      exact .entry hread
    | error reason =>
      rw [readEntryFile, readContent, hread]
      exact .malformed hread

private theorem Yields.path_entry {outcome : FileOutcome} (h : Yields formats path content outcome)
    {e : SourcedEntry} (he : outcome.sourced? = some e) : e.path = path := by
  cases h <;> cases he
  rfl

private theorem Yields.path_problem {outcome : FileOutcome}
    (h : Yields formats path content outcome)
    {p : SourceProblem} (hp : outcome.problem? = some p) : p.path = path := by
  cases h <;> cases hp <;> rfl

private theorem FileOutcome.isSome_problem? (outcome : FileOutcome) :
    outcome.problem?.isSome = !outcome.sourced?.isSome := by
  cases outcome <;> rfl

/-- The outcome of reading an entry file of a catalog folder. -/
def outcomeOf (formats : Formats) (path : String) (tree : Files.Node)
    (file : String × Option String) : FileOutcome :=
  readEntryFile formats (entryPath path tree file.1) file.2

private theorem path_entry_outcomeOf (file : String × Option String) (e : SourcedEntry)
    (he : (outcomeOf formats path tree file).sourced? = some e) :
    e.path = entryPath path tree file.1 :=
  (yields_readEntryFile formats _ file.2).path_entry he

private theorem path_problem_outcomeOf (file : String × Option String) (p : SourceProblem)
    (hp : (outcomeOf formats path tree file).problem? = some p) :
    p.path = entryPath path tree file.1 :=
  (yields_readEntryFile formats _ file.2).path_problem hp

private theorem ofFolder_eq (formats : Formats) (path : String) (htree : tree.IsTree) :
    ofFolder formats path tree =
      { info := folderInfo formats tree
        entries := (filesByName tree).filterMap fun file ↦
          (outcomeOf formats path tree file).sourced?
        problems := (filesByName tree).filterMap fun file ↦
          (outcomeOf formats path tree file).problem? } := by
  rw [ofFolder]
  dsimp only
  rw [entryFiles_eq path htree, List.map_map, List.filterMap_map, List.filterMap_map]
  rfl

private theorem load_of_isFolder (formats : Formats) (path : String) (h : tree.isFolder = true) :
    load formats path (some tree) = .ok (ofFolder formats path tree) := by
  cases tree with
  | file content => cases h
  | folder entries => rfl

/-! ### Runs over the entry files -/

section Runs

variable {β : Type} {yield : String × Option String → Option β} {pathOf : β → String}

private theorem filter_path_filterMap (keep : String → Bool)
    (hpath : ∀ file b, yield file = some b → pathOf b = entryPath path tree file.1)
    (files : List (String × Option String)) :
    (files.filterMap yield).filter (fun b ↦ keep (pathOf b)) =
      (files.filter fun file ↦ keep (entryPath path tree file.1)).filterMap yield := by
  rw [List.filter_filterMap, List.filterMap_filter]
  apply List.filterMap_congr
  intro file _
  cases hyield : yield file with
  | none => simp
  | some b => rw [← hpath file b hyield, Option.filter_some]

private theorem pairwise_filterMap_filesByName (htree : tree.IsTree)
    (hpath : ∀ file b, yield file = some b → pathOf b = entryPath path tree file.1) :
    ((filesByName tree).filterMap yield).Pairwise fun a b ↦
      Text.bytes (Files.fileLabel (pathOf a)) < Text.bytes (Files.fileLabel (pathOf b)) := by
  rw [List.pairwise_filterMap]
  refine (pairwise_filesByName htree).imp_of_mem ?_
  rintro ⟨name, content⟩ ⟨name', content'⟩ hfile hfile' hlt a ha b hb
  have hname := ((mem_filesByName htree).mp hfile).isName htree
  have hname' := ((mem_filesByName htree).mp hfile').isName htree
  rw [hpath _ a ha, hpath _ b hb, fileLabel_entryPath hname, fileLabel_entryPath hname',
    Text.bytes_lt_bytes_iff]
  exact hlt

end Runs

private theorem filter_path_filesByName (path : String) (htree : tree.IsTree)
    (h : IsEntryFile tree name content) :
    (filesByName tree).filter (fun file ↦ entryPath path tree file.1 == entryPath path tree name) =
      [(name, content)] := by
  apply eq_of_pairwise_name_lt ((pairwise_filesByName htree).filter _) (List.pairwise_singleton _ _)
  rintro ⟨name', content'⟩
  rw [List.mem_filter, mem_filesByName htree, List.mem_singleton, beq_iff_eq, Prod.mk.injEq]
  constructor
  · rintro ⟨h', hpath⟩
    obtain rfl : name' = name := by
      rw [← fileLabel_entryPath (h'.isName htree), hpath, fileLabel_entryPath (h.isName htree)]
    have hsame := h'.stands.symm.trans h.stands
    rw [Option.some.injEq, Files.Node.file.injEq] at hsame
    exact ⟨rfl, hsame⟩
  · rintro ⟨rfl, rfl⟩
    exact ⟨h, rfl⟩

private theorem filter_path_filterMap_filesByName {β : Type}
    {yield : String × Option String → Option β} {pathOf : β → String} (htree : tree.IsTree)
    (hpath : ∀ file b, yield file = some b → pathOf b = entryPath path tree file.1)
    (h : IsEntryFile tree name content) :
    ((filesByName tree).filterMap yield).filter (fun b ↦ pathOf b == entryPath path tree name) =
      (yield (name, content)).toList := by
  rw [filter_path_filterMap (· == entryPath path tree name) hpath,
    filter_path_filesByName path htree h]
  cases hyield : yield (name, content) with
  | none => rw [List.filterMap_cons_none hyield, List.filterMap_nil, Option.toList_none]
  | some b => rw [List.filterMap_cons_some hyield, List.filterMap_nil, Option.toList_some]

/-- A loaded folder accounts for its files. -/
theorem accountsFor_ofFolder (formats : Formats) (path : String) (htree : tree.IsTree) :
    (ofFolder formats path tree).AccountsFor formats path tree := by
  rw [ofFolder_eq formats path htree]
  constructor
  case outcome =>
    intro name content h
    exact ⟨outcomeOf formats path tree (name, content), yields_readEntryFile _ _ _,
      filter_path_filterMap_filesByName htree path_entry_outcomeOf h,
      filter_path_filterMap_filesByName htree path_problem_outcomeOf h⟩
  case entry_from_file =>
    intro e he
    obtain ⟨⟨name, content⟩, hfile, hyield⟩ := List.mem_filterMap.mp he
    exact ⟨name, content, (mem_filesByName htree).mp hfile, path_entry_outcomeOf _ e hyield⟩
  case problem_from_file =>
    intro p hp
    obtain ⟨⟨name, content⟩, hfile, hyield⟩ := List.mem_filterMap.mp hp
    exact ⟨name, content, (mem_filesByName htree).mp hfile, path_problem_outcomeOf _ p hyield⟩
  case entries_in_order => exact pairwise_filterMap_filesByName htree path_entry_outcomeOf
  case problems_in_order => exact pairwise_filterMap_filesByName htree path_problem_outcomeOf

/-- The entries and problems are as many as the entry files. -/
theorem checked_audit_ofFolder (formats : Formats) (path : String) (htree : tree.IsTree) :
    (ofFolder formats path tree).audit.checked =
      {name | ∃ content, IsEntryFile tree name content}.ncard := by
  have hnames : {name | ∃ content, IsEntryFile tree name content} =
      ((filesByName tree).map (·.1)).toFinset := by
    ext name
    simp [← mem_filesByName htree]
  have hnodup : ((filesByName tree).map (·.1)).Nodup := by
    apply List.pairwise_map.mpr ((pairwise_filesByName htree).imp _)
    intro f g hlt hsame
    exact String.lt_irrefl _ (hsame ▸ hlt)
  rw [hnames, Set.ncard_coe_finset, List.toFinset_card_of_nodup hnodup, List.length_map,
    ofFolder_eq formats path htree, audit]
  dsimp only
  rw [List.length_filterMap_eq_countP, List.length_filterMap_eq_countP,
    List.length_eq_countP_add_countP
      fun file ↦ (outcomeOf formats path tree file).sourced?.isSome]
  simp only [FileOutcome.isSome_problem?, Bool.not_eq_true, Bool.decide_eq_false]

/-! ### Edits of a catalog folder -/

variable {tree' : Files.Node}

private theorem folderInfo_congr (formats : Formats)
    (h : tree'.child? infoFile = tree.child? infoFile) :
    folderInfo formats tree' = folderInfo formats tree := by
  rw [folderInfo, folderInfo, h]

private theorem outcomeOf_congr (formats : Formats) (path : String)
    (h : entryNames tree' = entryNames tree) :
    outcomeOf formats path tree' = outcomeOf formats path tree := by
  funext file
  rw [outcomeOf, outcomeOf, entryPath, entryPath, h]

private theorem folderInfo_withContent (formats : Formats)
    (h : entryNames tree ++ [name] ≠ [infoFile])
    (content : Option String) :
    folderInfo formats (withContent tree name content) = folderInfo formats tree := by
  apply folderInfo_congr
  rcases entryNames_cases tree with ⟨entries, -, hnames⟩ | ⟨-, hnames⟩
  · have hne : infoFile ≠ entriesFolder := by decide
    rw [withContent, hnames, List.singleton_append, Files.Node.child?_place, if_neg hne]
  · have hne : infoFile ≠ name := by
      rintro rfl
      exact h (by rw [hnames, List.nil_append])
    rw [withContent, hnames, List.nil_append, Files.Node.child?_place, if_neg hne]

/-- New content of an entry file changes at most what comes from this file. -/
theorem agreeBeside_withContent (formats : Formats) (path : String) (htree : tree.IsTree)
    (h : IsEntryFile tree name content) (content' : Option String) :
    AgreeBeside (entryPath path tree name) (ofFolder formats path tree)
      (ofFolder formats path (withContent tree name content')) := by
  have htree' := isTree_withContent htree (h.isName htree) content'
  have hnames := entryNames_withContent tree h.yaml content'
  rw [ofFolder_eq formats path htree, ofFolder_eq formats path htree',
    outcomeOf_congr formats path hnames]
  -- Both rows of the other files rise by name, so they are equal when their members are.
  have hfiles : (filesByName tree).filter
        (fun file ↦ entryPath path tree file.1 != entryPath path tree name) =
      (filesByName (withContent tree name content')).filter
        fun file ↦ entryPath path tree file.1 != entryPath path tree name := by
    apply eq_of_pairwise_name_lt ((pairwise_filesByName htree).filter _)
      ((pairwise_filesByName htree').filter _)
    rintro ⟨other, content⟩
    rw [List.mem_filter, List.mem_filter, mem_filesByName htree, mem_filesByName htree']
    refine and_congr_left fun hpath ↦ ?_
    have hne : other ≠ name := by
      rintro rfl
      simp at hpath
    exact (isEntryFile_withContent_iff h.yaml hne _ _).symm
  constructor
  case info => exact (folderInfo_withContent formats h.not_info content').symm
  case entries =>
    rw [filter_path_filterMap (· != entryPath path tree name) path_entry_outcomeOf,
      filter_path_filterMap (· != entryPath path tree name) path_entry_outcomeOf, hfiles]
  case problems =>
    rw [filter_path_filterMap (· != entryPath path tree name) path_problem_outcomeOf,
      filter_path_filterMap (· != entryPath path tree name) path_problem_outcomeOf, hfiles]

/-- The file about the catalog changes nothing but the information. -/
theorem ofFolder_withInfo (formats : Formats) (path : String) (htree : tree.IsTree)
    (content : Option String) :
    ofFolder formats path (withInfo tree content) =
      { ofFolder formats path tree with info := folderInfo formats (withInfo tree content) } := by
  have htree' : (withInfo tree content).IsTree := by
    refine htree.place (.file content) ?_
    rw [List.forall_mem_singleton]
    decide
  have hfiles : filesByName (withInfo tree content) = filesByName tree := by
    apply eq_of_pairwise_name_lt (pairwise_filesByName htree') (pairwise_filesByName htree)
    rintro ⟨name, content'⟩
    rw [mem_filesByName htree', mem_filesByName htree, isEntryFile_withInfo_iff]
  rw [ofFolder_eq formats path htree, ofFolder_eq formats path htree',
    outcomeOf_congr formats path (entryNames_withInfo tree content), hfiles]

/-! ### Loading a catalog folder -/

/-- Loading a catalog folder accounts for every entry file in it, whatever the readers do: it never
fails, and each of these files, no other one, has one entry or one problem, both in byte order of
the file names. An audit examines as many as there are files. A file with new content changes at
most what it yields itself, and the file about the catalog changes the information only. -/
theorem load_accountsFor (formats : Formats) (path : String) (htree : tree.IsTree)
    (hfolder : tree.isFolder = true) :
    ∃ source, load formats path (some tree) = .ok source ∧
      source.AccountsFor formats path tree ∧
      source.audit.checked = {name | ∃ content, IsEntryFile tree name content}.ncard ∧
      (∀ name content, IsEntryFile tree name content → ∀ content',
        ∃ source', load formats path (some (withContent tree name content')) = .ok source' ∧
          AgreeBeside (entryPath path tree name) source source') ∧
      ∀ content, ∃ info, load formats path (some (withInfo tree content)) =
        .ok { source with info := info } := by
  refine ⟨ofFolder formats path tree, load_of_isFolder formats path hfolder,
    accountsFor_ofFolder formats path htree, checked_audit_ofFolder formats path htree, ?_, ?_⟩
  · intro name content h content'
    refine ⟨_, load_of_isFolder formats path ?_, agreeBeside_withContent formats path htree h _⟩
    exact Files.Node.isFolder_place (List.concat_ne_nil _ _) _ _
  · intro content
    refine ⟨folderInfo formats (withInfo tree content), ?_⟩
    rw [load_of_isFolder formats path rfl, ofFolder_withInfo formats path htree]

/-- Entry files in a folder of their own, one of which is no text, with a file for the catalog that
bears the name of another one, and with a note and a folder that hold no entry. -/
theorem load_accountsFor_of_mixed_files :
    let entries := [("b.YML", Files.Node.file (some "name: B")), ("a.yaml", .file none),
      ("index.yaml", .file (some "name: C")), ("notes.txt", .file (some "draft")),
      ("old.yaml", .folder [])]
    let tree := Files.Node.folder [("index.yaml", .file (some "version: 2")),
      ("certifications", .folder entries)]
    let path := "data/certifications/a.yaml"
    tree.IsTree ∧ tree.isFolder = true ∧ IsEntryFile tree "a.yaml" none ∧
    ∃ source, load .standard "data" (some tree) = .ok source ∧
      source.entries.filter (·.path == path) = [] ∧
      source.problems.filter (·.path == path) = [⟨path, (LoadError.unreadable path).message⟩] ∧
      ∃ source', load .standard "data" (some (withContent tree "a.yaml" (some "name: A"))) =
          .ok source' ∧
        AgreeBeside path source source' := by
  intro entries tree path
  have hentries : (Files.Node.folder entries).IsTree := by
    refine .folder (by decide) (by decide) ?_
    simp only [entries, List.forall_mem_cons]
    exact ⟨.file _, .file _, .file _, .file _, Files.Node.isTree_empty, by simp⟩
  have htree : tree.IsTree := by
    refine .folder (by decide) (by decide) ?_
    simp only [List.forall_mem_cons]
    exact ⟨.file _, hentries, by simp⟩
  have hfile : IsEntryFile tree "a.yaml" none := by
    exact ⟨rfl, ⟨"a", "yaml", by decide, by decide, .inl (by decide)⟩, by decide⟩
  have hpath : entryPath "data" tree "a.yaml" = path := by decide
  obtain ⟨source, hload, haccounts, -, hcontent, -⟩ :=
    load_accountsFor .standard "data" htree rfl
  obtain ⟨outcome, hyields, hentry, hproblem⟩ := haccounts.outcome "a.yaml" none hfile
  obtain ⟨source', hload', hagree⟩ := hcontent "a.yaml" none hfile (some "name: A")
  rw [hpath] at hyields hentry hproblem hagree
  cases hyields
  exact ⟨htree, rfl, hfile, source, hload, hentry, hproblem, source', hload', hagree⟩

end CertCatalog.CatalogSource
