import CertCatalog.CatalogSource.Formats
import CertCatalog.Proofs.Text.LetterCase

/-!
# Names below a path

A name is a text that can stand for an entry of a folder. Going from a path to a name in it puts the
name behind the components of the path, so the path of a file tells its name, and different names
lead to different paths.
-/

namespace CertCatalog.Files

/-- A text can name an entry of a folder. -/
structure IsName (s : String) : Prop where
  ne_empty : s ≠ ""
  ne_dot : s ≠ "."
  ne_parent : s ≠ ".."
  slash_notMem : '/' ∉ s.toList

instance (s : String) : Decidable (IsName s) :=
  decidable_of_iff (s ≠ "" ∧ s ≠ "." ∧ s ≠ ".." ∧ '/' ∉ s.toList)
    ⟨fun ⟨hempty, hdot, hparent, hslash⟩ ↦ ⟨hempty, hdot, hparent, hslash⟩,
      fun h ↦ ⟨h.ne_empty, h.ne_dot, h.ne_parent, h.slash_notMem⟩⟩

/-! ### Pieces of a path -/

private theorem splitAt_ne_nil (separator : Char) (cs : List Char) : splitAt separator cs ≠ [] := by
  cases cs with
  | nil => exact List.cons_ne_nil _ _
  | cons c cs =>
    rw [splitAt]
    split
    · exact List.cons_ne_nil _ _
    · split <;> exact List.cons_ne_nil _ _

private theorem splitAt_of_notMem {separator : Char} {cs : List Char} (h : separator ∉ cs) :
    splitAt separator cs = [cs] := by
  induction cs with
  | nil => rfl
  | cons c cs ih =>
    rw [List.mem_cons, not_or] at h
    rw [splitAt, if_neg (Ne.symm h.1), ih h.2]

private theorem splitAt_append_cons (separator : Char) (cs ds : List Char) :
    splitAt separator (cs ++ separator :: ds) = splitAt separator cs ++ splitAt separator ds := by
  induction cs with
  | nil => rw [List.nil_append, splitAt.eq_2, if_pos rfl, splitAt.eq_1, List.singleton_append]
  | cons c cs ih =>
    rw [List.cons_append, splitAt, splitAt, ih]
    split
    · rfl
    · cases hsplit : splitAt separator cs with
      | nil => exact absurd hsplit (splitAt_ne_nil separator cs)
      | cons piece pieces => rfl

private theorem IsName.segments_eq {name : String} (h : IsName name) : segments name = [name] := by
  rw [segments, splitAt_of_notMem h.slash_notMem, List.map_singleton, String.ofList_toList]

private theorem IsName.isAbsolute_eq {name : String} (h : IsName name) :
    isAbsolute name = false := by
  rw [isAbsolute, beq_eq_false_iff_ne]
  intro hhead
  exact h.slash_notMem (List.mem_of_head? hhead)

private theorem toList_join {path : String} (hpath : path ≠ "") (name : String) :
    ∃ front, (path.toList = front ∨ path.toList = front ++ ['/']) ∧
      (join path name).toList = front ++ '/' :: name.toList := by
  rw [join]
  split
  · next hlast =>
    rw [List.getLast?_eq_none_iff, String.toList_eq_nil_iff] at hlast
    exact absurd hlast hpath
  · next hlast =>
    obtain ⟨front, hfront⟩ := List.getLast?_eq_some_iff.mp hlast
    refine ⟨front, .inr hfront, ?_⟩
    rw [String.toList_append, hfront, List.append_assoc, List.singleton_append]
  · refine ⟨path.toList, .inl rfl, ?_⟩
    rw [String.toList_append, String.toList_append, List.append_assoc]
    rfl

private theorem isAbsolute_join {path : String} (hpath : path ≠ "") (name : String) :
    isAbsolute (join path name) = isAbsolute path := by
  obtain ⟨front, hfront, hjoined⟩ := toList_join hpath name
  rw [isAbsolute, isAbsolute, hjoined]
  cases front with
  | nil =>
    rcases hfront with hfront | hfront
    · exact absurd (String.toList_eq_nil_iff.mp hfront) hpath
    · rw [hfront]
      rfl
  | cons c front => rcases hfront with hfront | hfront <;> rw [hfront] <;> rfl

/-- A name below a path that is not empty is one more segment, in place of an empty one behind a
slash at the end of the path. -/
theorem segments_join {path name : String} (hpath : path ≠ "") (h : IsName name) :
    ∃ front, front ≠ [] ∧ (segments path = front ∨ segments path = front ++ [""]) ∧
      segments (join path name) = front ++ [name] := by
  obtain ⟨front, hfront, hjoined⟩ := toList_join hpath name
  refine ⟨(splitAt '/' front).map String.ofList, ?_, ?_, ?_⟩
  · rw [Ne, List.map_eq_nil_iff]
    exact splitAt_ne_nil '/' front
  · rcases hfront with hfront | hfront
    · rw [segments, hfront]
      exact .inl rfl
    · rw [segments, hfront, splitAt_append_cons, List.map_append]
      exact .inr rfl
  · rw [segments, hjoined, splitAt_append_cons, List.map_append,
      splitAt_of_notMem h.slash_notMem, List.map_singleton, String.ofList_toList]

/-- A name below a path is one more component. -/
theorem components_join (path : String) {name : String} (h : IsName name) :
    components (join path name) = components path ++ [name] := by
  have hname : ([name].filter fun s ↦ !s.isEmpty && s != ".") = [name] := by
    simp [h.ne_empty, h.ne_dot]
  by_cases hpath : path = ""
  · subst hpath
    have hdot : ((segments name).head? == some ".") = false := by
      rw [h.segments_eq]
      simp [h.ne_dot]
    show components name = [] ++ [name]
    rw [components, hdot, h.isAbsolute_eq, h.segments_eq, hname]
    rfl
  · obtain ⟨front, hfront, hsegments, hjoined⟩ := segments_join hpath h
    obtain ⟨first, rest, rfl⟩ := List.exists_cons_of_ne_nil hfront
    have hhead : ∀ last : String, (first :: rest ++ [last]).head? = (first :: rest).head? :=
      fun _ ↦ rfl
    rw [components, components, hjoined, isAbsolute_join hpath, hhead, List.filter_append, hname]
    rcases hsegments with hsegments | hsegments
    · rw [hsegments, List.append_assoc, List.append_assoc, List.append_assoc]
    · have hempty : ([""].filter fun s ↦ !s.isEmpty && s != ".") = [] := by decide
      rw [hsegments, hhead, List.filter_append, hempty, List.append_nil, List.append_assoc,
        List.append_assoc, List.append_assoc]

/-- The path of a name ends in a file of this name. -/
theorem fileName?_join (path : String) {name : String} (h : IsName name) :
    fileName? (join path name) = some name := by
  have hslash : name ≠ "/" := by
    rintro rfl
    exact h.slash_notMem (by decide)
  rw [fileName?, components_join path h, List.getLast?_concat]
  simp [h.ne_dot, h.ne_parent, hslash]

/-- The path of a name is labelled with the name. -/
theorem fileLabel_join (path : String) {name : String} (h : IsName name) :
    fileLabel (join path name) = name := by
  rw [fileLabel, fileName?_join path h, Option.getD_some]

/-! ### Rows of names -/

/-- The path that names lead to. -/
def below (path : String) (names : List String) : String := names.foldl join path

/-- The components of a path below another one are those of that one and the names. -/
theorem components_below (path : String) {names : List String} (h : ∀ name ∈ names, IsName name) :
    components (below path names) = components path ++ names := by
  induction names generalizing path with
  | nil => rw [below, List.foldl_nil, List.append_nil]
  | cons name names ih =>
    rw [List.forall_mem_cons] at h
    rw [below, List.foldl_cons, ← below, ih _ h.2, components_join path h.1, List.append_assoc,
      List.singleton_append]

/-- Rows of names lead to the same path when they are the same. -/
theorem samePath_below_iff (path : String) {names names' : List String}
    (h : ∀ name ∈ names, IsName name) (h' : ∀ name ∈ names', IsName name) :
    samePath (below path names) (below path names') = true ↔ names = names' := by
  rw [samePath, beq_iff_eq, components_below path h, components_below path h',
    List.append_cancel_left_eq]

/-! ### Extensions -/

private theorem eq_append_of_dropWhile {cs before : List Char} {point : Char}
    (h : cs.reverse.dropWhile (· != '.') = point :: before) :
    cs = before.reverse ++ '.' :: (cs.reverse.takeWhile (· != '.')).reverse := by
  have hpoint : point = '.' := by
    have := List.head?_dropWhile_not (· != '.') cs.reverse
    simpa [h] using this
  rw [hpoint] at h
  have hsplit : cs.reverse.takeWhile (· != '.') ++ '.' :: before = cs.reverse := by
    rw [← h]
    exact List.takeWhile_append_dropWhile
  rw [← List.reverse_inj, List.reverse_append, List.reverse_cons, List.reverse_reverse,
    List.reverse_reverse, List.append_assoc, List.singleton_append, hsplit]

private theorem span_reverse_append_point (stem : List Char) {ext : List Char} (hext : '.' ∉ ext) :
    (stem ++ '.' :: ext).reverse.dropWhile (· != '.') = '.' :: stem.reverse ∧
      (stem ++ '.' :: ext).reverse.takeWhile (· != '.') = ext.reverse := by
  have hreversed : (stem ++ '.' :: ext).reverse = ext.reverse ++ '.' :: stem.reverse := by simp
  have hall : ∀ c ∈ ext.reverse, (c != '.') = true := by
    intro c hc
    rw [bne_iff_ne]
    rintro rfl
    exact hext (List.mem_reverse.mp hc)
  rw [hreversed, List.dropWhile_append_of_pos hall, List.takeWhile_append_of_pos hall]
  simp

/-- The extension of a file name stands behind its last point, which has a stem in front. -/
theorem splitExtension_snd_eq_some_iff {name ext : String} :
    (splitExtension name).2 = some ext ↔
      '.' ∉ ext.toList ∧ ∃ stem, stem ≠ "" ∧ name = stem ++ "." ++ ext := by
  constructor
  · intro h
    cases hbehind : name.toList.reverse.dropWhile (· != '.') with
    | nil => simp [splitExtension, hbehind] at h
    | cons point before =>
      have hname := eq_append_of_dropWhile hbehind
      -- A name whose only point comes first has no extension.
      by_cases hbefore : before = []
      · simp [splitExtension, hbehind, hbefore] at h
      · have hext : (name.toList.reverse.takeWhile (· != '.')).reverse = ext.toList := by
          rw [← String.ofList_inj, String.ofList_toList]
          simpa [splitExtension, hbehind, hbefore] using h
        refine ⟨?_, String.ofList before.reverse, ?_, ?_⟩
        · rw [← hext, List.mem_reverse]
          intro hmem
          exact absurd (List.all_eq_true.mp List.all_takeWhile _ hmem) (by decide)
        · rw [Ne, ← String.toList_eq_nil_iff, String.toList_ofList, List.reverse_eq_nil_iff]
          exact hbefore
        · rw [hext] at hname
          rw [← String.toList_inj, hname]
          simp
  · rintro ⟨hext, stem, hstem, rfl⟩
    have hchars : (stem ++ "." ++ ext).toList = stem.toList ++ '.' :: ext.toList := by simp
    obtain ⟨hbefore, hbehind⟩ := span_reverse_append_point stem.toList hext
    rw [splitExtension, hchars, hbefore, hbehind]
    simp [hstem]

/-- The name of a YAML file: its extension is yaml or yml, up to ASCII case. -/
def IsYamlName (name : String) : Prop :=
  ∃ stem ext, stem ≠ "" ∧ name = stem ++ "." ++ ext ∧
    (Text.EqUpToCase ext "yaml" ∨ Text.EqUpToCase ext "yml")

/-- The format of a path is YAML when its extension says so. -/
theorem ofPath?_eq_yaml_iff {path : String} :
    FileFormat.ofPath? path = some .yaml ↔
      ∃ ext, extension? path = some ext ∧
        (Text.EqUpToCase ext "yaml" ∨ Text.EqUpToCase ext "yml") := by
  have hyaml : Text.foldAscii "yaml" = "yaml".toList := by decide
  have hyml : Text.foldAscii "yml" = "yml".toList := by decide
  simp only [Text.EqUpToCase, hyaml, hyml]
  rw [FileFormat.ofPath?]
  cases extension? path with
  | none => simp
  | some ext =>
    simp only [Option.map_some, Option.some.injEq, exists_eq_left']
    split
    · next hfolded => exact ⟨fun _ ↦ hfolded, fun _ ↦ rfl⟩
    · next hfolded =>
      refine ⟨fun hjson ↦ ?_, fun hyaml ↦ absurd hyaml hfolded⟩
      split at hjson <;> cases hjson

private theorem point_notMem_of_yaml {ext : String}
    (h : Text.EqUpToCase ext "yaml" ∨ Text.EqUpToCase ext "yml") : '.' ∉ ext.toList := by
  intro hmem
  have hfolded : '.' ∈ Text.foldAscii ext := List.mem_map.mpr ⟨'.', hmem, by decide⟩
  rcases h with h | h <;>
    rw [h] at hfolded <;>
    exact absurd hfolded (by decide)

/-- The path of a name is one of a YAML file when the name is. -/
theorem ofPath?_join_eq_yaml_iff (path : String) {name : String} (h : IsName name) :
    FileFormat.ofPath? (join path name) = some .yaml ↔ IsYamlName name := by
  rw [ofPath?_eq_yaml_iff, extension?, fileName?_join path h, Option.bind_some]
  simp only [splitExtension_snd_eq_some_iff, IsYamlName]
  constructor
  · rintro ⟨ext, ⟨-, stem, hstem, hname⟩, hyaml⟩
    exact ⟨stem, ext, hstem, hname, hyaml⟩
  · rintro ⟨stem, ext, hstem, hname, hyaml⟩
    exact ⟨ext, ⟨point_notMem_of_yaml hyaml, stem, hstem, hname⟩, hyaml⟩

end CertCatalog.Files
