import CertCatalog.CatalogSource.Loading
import CertCatalog.Proofs.Files.Tree
import Mathlib.Data.List.Sort

/-!
# Entry files of a catalog folder

The entry files are the YAML files that lie directly in the folder of entries, or in the catalog
folder when there is none, without the file about the catalog. They are what is read, in the order
of their names. A file with new content leaves the other entry files as they are, and the file about
the catalog leaves all of them.
-/

namespace CertCatalog.CatalogSource

/-- The names that lead from a catalog folder to the folder of its entries. -/
def entryNames (tree : Files.Node) : List String :=
  match tree.child? entriesFolder with
  | some (.folder _) => [entriesFolder]
  | _ => []

/-- The path of an entry file of a catalog folder. -/
def entryPath (path : String) (tree : Files.Node) (name : String) : String :=
  Files.below path (entryNames tree ++ [name])

/-- A file of a catalog folder should hold an entry: it lies directly in the folder of entries, is a
YAML file by its name, and is not the file about the catalog. -/
structure IsEntryFile (tree : Files.Node) (name : String) (content : Option String) : Prop where
  stands : tree.descendant? (entryNames tree ++ [name]) = some (.file content)
  yaml : Files.IsYamlName name
  not_info : entryNames tree ++ [name] ≠ [infoFile]

/-! ### The folder of entries -/

variable {path : String} {tree : Files.Node} {name : String} {content : Option String}

/-- The entries have a folder of their own, or lie in the catalog folder. -/
theorem entryNames_cases (tree : Files.Node) :
    (∃ entries, tree.child? entriesFolder = some (.folder entries) ∧
        entryNames tree = [entriesFolder]) ∨
      (∀ entries, tree.child? entriesFolder ≠ some (.folder entries)) ∧ entryNames tree = [] := by
  rw [entryNames]
  split
  · next entries hchild => exact .inl ⟨entries, hchild, rfl⟩
  · next hnone => exact .inr ⟨hnone, rfl⟩

private theorem isName_of_mem_entryNames : ∀ front ∈ entryNames tree, Files.IsName front := by
  rcases entryNames_cases tree with ⟨entries, -, hnames⟩ | ⟨-, hnames⟩
  · rw [hnames, List.forall_mem_singleton]
    decide
  · rw [hnames]
    exact fun front hfront ↦ absurd hfront List.not_mem_nil

private theorem entryFolder_eq (path : String) (tree : Files.Node) :
    ∃ folder, tree.descendant? (entryNames tree) = some folder ∧
      entryFolder path tree = (Files.below path (entryNames tree), folder) := by
  rcases entryNames_cases tree with ⟨entries, hchild, hnames⟩ | ⟨hnone, hnames⟩
  · refine ⟨.folder entries, ?_, ?_⟩
    · rw [hnames, Files.Node.descendant?_singleton, hchild]
    · rw [hnames, entryFolder, hchild]
      rfl
  · refine ⟨tree, ?_, ?_⟩
    · rw [hnames]
      rfl
    · rw [hnames, entryFolder]
      split
      · next entries hchild => exact absurd hchild (hnone entries)
      · rfl

private theorem entryPath_eq_join (path : String) (tree : Files.Node) (name : String) :
    entryPath path tree name = Files.join (Files.below path (entryNames tree)) name := by
  rw [entryPath, Files.below, List.foldl_append]
  rfl

/-- The path of an entry file is labelled with its name. -/
theorem fileLabel_entryPath (h : Files.IsName name) :
    Files.fileLabel (entryPath path tree name) = name := by
  rw [entryPath_eq_join, Files.fileLabel_join _ h]

private theorem samePath_entryPath_iff (h : Files.IsName name) :
    Files.samePath (entryPath path tree name) (Files.join path infoFile) = true ↔
      entryNames tree ++ [name] = [infoFile] := by
  have hinfo : ∀ info ∈ [infoFile], Files.IsName info := by
    rw [List.forall_mem_singleton]
    decide
  have hnames : ∀ front ∈ entryNames tree ++ [name], Files.IsName front := by
    rw [List.forall_mem_append, List.forall_mem_singleton]
    exact ⟨isName_of_mem_entryNames, h⟩
  have hjoin : Files.join path infoFile = Files.below path [infoFile] := rfl
  rw [entryPath, hjoin, Files.samePath_below_iff path hnames hinfo]

/-- An entry file has a name. -/
theorem IsEntryFile.isName (h : IsEntryFile tree name content) (htree : tree.IsTree) :
    Files.IsName name := by
  obtain ⟨folder, hfolder, hchild⟩ := Option.bind_eq_some_iff.mp
    ((tree.descendant?_append (entryNames tree) [name]).symm.trans h.stands)
  rw [Files.Node.descendant?_singleton] at hchild
  have hentries := htree.descendant hfolder
  exact hentries.isName (hentries.child?_eq_some_iff.mp hchild)

/-! ### Entry files by name -/

/-- The name and content of an entry of the folder of entries that is an entry file. -/
def entryFile? (tree : Files.Node) (entry : String × Files.Node) :
    Option (String × Option String) :=
  match entry.2 with
  | .file content =>
    if FileFormat.ofPath? entry.1 = some .yaml ∧ entryNames tree ++ [entry.1] ≠ [infoFile] then
      some (entry.1, content)
    else none
  | .folder _ => none

/-- An entry of the folder of entries is an entry file when it is a file with the right name. -/
theorem entryFile?_eq_some_iff {entry : String × Files.Node} (h : Files.IsName entry.1) :
    entryFile? tree entry = some (name, content) ↔
      entry = (name, .file content) ∧ Files.IsYamlName name ∧
        entryNames tree ++ [name] ≠ [infoFile] := by
  obtain ⟨name', node⟩ := entry
  have hyaml : FileFormat.ofPath? name' = some .yaml ↔ Files.IsYamlName name' :=
    Files.ofPath?_join_eq_yaml_iff "" h
  cases node with
  | folder entries => simp [entryFile?]
  | file content' =>
    dsimp only [entryFile?]
    rw [Option.ite_none_right_eq_some, hyaml, Option.some.injEq, Prod.mk.injEq, Prod.mk.injEq,
      Files.Node.file.injEq]
    constructor
    · rintro ⟨hright, rfl, rfl⟩
      exact ⟨⟨rfl, rfl⟩, hright⟩
    · rintro ⟨⟨rfl, rfl⟩, hright⟩
      exact ⟨hright, rfl, rfl⟩

/-- The entry files of a catalog folder by name. -/
def filesByName (tree : Files.Node) : List (String × Option String) :=
  match tree.descendant? (entryNames tree) with
  | some folder => folder.sortedEntries.filterMap (entryFile? tree)
  | none => []

/-- The entry files are listed with their contents. -/
theorem mem_filesByName (htree : tree.IsTree) :
    (name, content) ∈ filesByName tree ↔ IsEntryFile tree name content := by
  obtain ⟨folder, hfolder, -⟩ := entryFolder_eq "" tree
  have hentries := htree.descendant hfolder
  have hstands : (name, Files.Node.file content) ∈ folder.entries ↔
      tree.descendant? (entryNames tree ++ [name]) = some (.file content) := by
    rw [← hentries.child?_eq_some_iff, Files.Node.descendant?_append, hfolder, Option.bind_some,
      Files.Node.descendant?_singleton]
  rw [filesByName, hfolder, List.mem_filterMap]
  constructor
  · rintro ⟨entry, hentry, hfile⟩
    rw [Files.Node.mem_sortedEntries] at hentry
    obtain ⟨rfl, hyaml, hinfo⟩ := (entryFile?_eq_some_iff (hentries.isName hentry)).mp hfile
    exact ⟨hstands.mp hentry, hyaml, hinfo⟩
  · rintro ⟨hfound, hyaml, hinfo⟩
    have hentry := hstands.mpr hfound
    exact ⟨_, Files.Node.mem_sortedEntries.mpr hentry,
      (entryFile?_eq_some_iff (hentries.isName hentry)).mpr ⟨rfl, hyaml, hinfo⟩⟩

private theorem fst_eq_of_entryFile? {entry : String × Files.Node} {file : String × Option String}
    (h : entryFile? tree entry = some file) : file.1 = entry.1 := by
  rw [entryFile?] at h
  split at h
  · split at h <;> cases h
    rfl
  · cases h

/-- The entry files rise strictly by name. -/
theorem pairwise_filesByName (htree : tree.IsTree) :
    (filesByName tree).Pairwise fun f g ↦ f.1 < g.1 := by
  obtain ⟨folder, hfolder, -⟩ := entryFolder_eq "" tree
  rw [filesByName, hfolder]
  refine (htree.descendant hfolder).pairwise_sortedEntries.filterMap _ ?_
  intro entry entry' hlt file hfile file' hfile'
  rw [fst_eq_of_entryFile? hfile, fst_eq_of_entryFile? hfile']
  exact hlt

/-- The files that are read are the entry files, each under its path. -/
theorem entryFiles_eq (path : String) (htree : tree.IsTree) :
    entryFiles (Files.join path infoFile) (entryFolder path tree).1 (entryFolder path tree).2 =
      (filesByName tree).map fun file ↦ (entryPath path tree file.1, file.2) := by
  obtain ⟨folder, hfolder, hpath⟩ := entryFolder_eq path tree
  rw [hpath, filesByName, hfolder, entryFiles, List.map_filterMap]
  apply List.filterMap_congr
  rintro ⟨name, node⟩ hentry
  have hname : Files.IsName name :=
    (htree.descendant hfolder).isName (Files.Node.mem_sortedEntries.mp hentry)
  cases node with
  | folder entries => rfl
  | file content =>
    -- Both tests look at the path but depend on the name alone.
    have hyaml : FileFormat.ofPath? name = some .yaml ↔
        FileFormat.ofPath? (entryPath path tree name) = some .yaml := by
      rw [entryPath_eq_join, Files.ofPath?_join_eq_yaml_iff _ hname]
      exact Files.ofPath?_join_eq_yaml_iff "" hname
    have hinfo : (!Files.samePath (entryPath path tree name) (Files.join path infoFile)) = true ↔
        entryNames tree ++ [name] ≠ [infoFile] := by
      rw [Bool.not_eq_true', ← Bool.not_eq_true, samePath_entryPath_iff hname]
    dsimp only [entryFile?]
    rw [← entryPath_eq_join]
    by_cases hright : FileFormat.ofPath? name = some .yaml ∧ entryNames tree ++ [name] ≠ [infoFile]
    · rw [if_pos hright, if_pos ⟨hyaml.mp hright.1, hinfo.mpr hright.2⟩]
      rfl
    · rw [if_neg hright, if_neg fun h ↦ hright ⟨hyaml.mpr h.1, hinfo.mp h.2⟩]
      rfl

/-- Entry files that rise strictly by name are the same when they have the same members. -/
theorem eq_of_pairwise_name_lt {files files' : List (String × Option String)}
    (h : files.Pairwise fun f g ↦ f.1 < g.1) (h' : files'.Pairwise fun f g ↦ f.1 < g.1)
    (hmem : ∀ file, file ∈ files ↔ file ∈ files') : files = files' := by
  have : Std.Asymm fun f g : String × Option String ↦ f.1 < g.1 := ⟨fun _ _ ↦ String.lt_asymm⟩
  exact h.eq_of_mem_iff h' hmem

/-! ### Edits -/

variable {tree' : Files.Node}

private theorem entryNames_congr (h : tree'.child? entriesFolder = tree.child? entriesFolder) :
    entryNames tree' = entryNames tree := by
  rw [entryNames, entryNames, h]

/-- Trees whose entries lie in the same place have an entry file in common when its names lead to
the same node. -/
theorem isEntryFile_congr (hnames : entryNames tree' = entryNames tree)
    (hstands : entryNames tree ++ [name] ≠ [infoFile] →
      tree'.descendant? (entryNames tree ++ [name]) =
        tree.descendant? (entryNames tree ++ [name])) :
    IsEntryFile tree' name content ↔ IsEntryFile tree name content := by
  constructor
  · rintro ⟨hfound, hyaml, hinfo⟩
    rw [hnames] at hfound hinfo
    exact ⟨(hstands hinfo).symm.trans hfound, hyaml, hinfo⟩
  · rintro ⟨hfound, hyaml, hinfo⟩
    rw [← hstands hinfo, ← hnames] at hfound
    rw [← hnames] at hinfo
    exact ⟨hfound, hyaml, hinfo⟩

private theorem not_isYamlName_entriesFolder : ¬Files.IsYamlName entriesFolder := by
  rintro ⟨stem, ext, -, hname, -⟩
  have hpoint : '.' ∈ entriesFolder.toList := by
    rw [hname]
    simp
  exact absurd hpoint (by decide)

/-- A catalog folder in which an entry file has new content. -/
def withContent (tree : Files.Node) (name : String) (content : Option String) : Files.Node :=
  tree.place (entryNames tree ++ [name]) (.file content)

/-- New content of an entry file leaves the entry files where they are. -/
theorem entryNames_withContent (tree : Files.Node) (hyaml : Files.IsYamlName name)
    (content : Option String) : entryNames (withContent tree name content) = entryNames tree := by
  rcases entryNames_cases tree with ⟨entries, hchild, hnames⟩ | ⟨-, hnames⟩
  · rw [withContent, hnames, List.singleton_append, entryNames, Files.Node.child?_place,
      if_pos rfl, hchild]
    rfl
  · have hne : entriesFolder ≠ name := by
      rintro rfl
      exact not_isYamlName_entriesFolder hyaml
    apply entryNames_congr
    rw [withContent, hnames, List.nil_append, Files.Node.child?_place, if_neg hne]

/-- The other entry files stay when an entry file has new content. -/
theorem isEntryFile_withContent_iff (hyaml : Files.IsYamlName name) {other : String}
    (hne : other ≠ name) (content content' : Option String) :
    IsEntryFile (withContent tree name content') other content ↔
      IsEntryFile tree other content := by
  refine isEntryFile_congr (entryNames_withContent tree hyaml content') fun _ ↦ ?_
  rw [withContent]
  exact Files.Node.descendant?_place_of_ne hne _ _ _

/-- A catalog folder with new content in an entry file is a tree. -/
theorem isTree_withContent (htree : tree.IsTree) (hname : Files.IsName name)
    (content : Option String) : (withContent tree name content).IsTree := by
  refine htree.place (.file content) ?_
  rw [List.forall_mem_append, List.forall_mem_singleton]
  exact ⟨isName_of_mem_entryNames, hname⟩

/-- A catalog folder in which the file about the catalog has new content. -/
def withInfo (tree : Files.Node) (content : Option String) : Files.Node :=
  tree.place [infoFile] (.file content)

private theorem child?_withInfo_of_ne (hne : name ≠ infoFile) (content : Option String) :
    (withInfo tree content).child? name = tree.child? name := by
  rw [withInfo, Files.Node.child?_place, if_neg hne]

/-- The file about the catalog leaves the entry files where they are. -/
theorem entryNames_withInfo (tree : Files.Node) (content : Option String) :
    entryNames (withInfo tree content) = entryNames tree :=
  entryNames_congr (child?_withInfo_of_ne (by decide) content)

/-- The file about the catalog leaves the entry files as they are. -/
theorem isEntryFile_withInfo_iff (content content' : Option String) :
    IsEntryFile (withInfo tree content') name content ↔ IsEntryFile tree name content := by
  refine isEntryFile_congr (entryNames_withInfo tree content') fun hinfo ↦ ?_
  -- The first of the names that lead to an entry file is not that of the file about the catalog.
  rcases entryNames_cases tree with ⟨entries, -, hfront⟩ | ⟨-, hfront⟩
  · rw [hfront, List.singleton_append, Files.Node.descendant?, Files.Node.descendant?,
      child?_withInfo_of_ne (by decide)]
  · rw [hfront, List.nil_append] at hinfo
    rw [hfront, List.nil_append, Files.Node.descendant?_singleton,
      Files.Node.descendant?_singleton, child?_withInfo_of_ne fun hname ↦ hinfo (by rw [hname])]

end CertCatalog.CatalogSource
