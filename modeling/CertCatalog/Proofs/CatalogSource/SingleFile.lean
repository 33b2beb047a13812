import CertCatalog.CatalogSource.Loading
import CertCatalog.Proofs.Entry.JsonReading
import Mathlib.Data.List.Find

/-!
# Catalogs in a single JSON file

Which objects read as a bundle is said by their members alone. A file keeps the items that it holds
unless its value fails as a list or bundle and yet reads as one entry: then the whole file becomes
that entry, and its items are lost without a word.
-/

namespace CertCatalog

/-! ### Bundles -/

private theorem CatalogInfo.isSome_withField? (info : CatalogInfo) (key : InfoKey) (j : Json) :
    (info.withField? key (.ofJson j)).isSome = j.isAbsentOr Json.isScalar := by
  rw [withField?, Option.isSome_map, Document.isSome_present? Scalar.isSome_ofDocument?]

private theorem CatalogInfo.isSome_withFields? (info : CatalogInfo)
    (fields : List (InfoKey × Json)) :
    (info.withFields? (fields.map (Prod.map id .ofJson))).isSome =
      fields.all fun field ↦ field.2.isAbsentOr Json.isScalar := by
  induction fields generalizing info with
  | nil => rfl
  | cons field rest ih =>
    rw [List.map_cons, Prod.map, id_eq, withFields?, List.all_cons,
      ← isSome_withField? info field.1]
    cases info.withField? field.1 (.ofJson field.2) with
    | none => rfl
    | some info' => exact ih info'

/-- Information is read when no key occurs twice and each has a scalar or nothing. -/
theorem CatalogInfo.isSome_ofFields?_iff (fields : List (InfoKey × Json)) :
    (ofFields? (fields.map (Prod.map id .ofJson))).isSome = true ↔
      (fields.map Prod.fst).Nodup ∧ ∀ field ∈ fields, field.2.isAbsentOr Json.isScalar = true := by
  rw [ofFields?, Json.map_fst_fields, ← List.all_eq_true, ← isSome_withFields? blank]
  by_cases h : (fields.map Prod.fst).Nodup
  · simp [h]
  · simp [h]

namespace BundleKey

private theorem find?_all (name : String) :
    (all.find? fun key ↦ key.label == name) =
      ((InfoKey.all.find? fun key ↦ key.label == name).map info).or
        (if name = entries.label then some entries else none) := by
  rw [all, List.find?_append, List.find?_map]
  congr 1
  by_cases h : name = entries.label
  · simp [h]
  · simp [h, Ne.symm h]

private theorem find?_info_entries :
    (InfoKey.all.find? fun key ↦ key.label == entries.label) = none := by decide

end BundleKey

namespace Json

/-- The values under the key for entries. -/
def entryValues (members : List (String × Json)) : List Json :=
  (members.filter (·.1 == BundleKey.entries.label)).map Prod.snd

/-- The members of an object that stand under keys of information. -/
def infoFields (members : List (String × Json)) : List (InfoKey × Json) :=
  fieldsOf InfoKey.all InfoKey.label members

/-- An object reads as a bundle: one member lists entries, and the keys of information occur once
at most, with a scalar or nothing. -/
structure IsBundle (members : List (String × Json)) : Prop where
  entries : ∃ items, entryValues members = [list items] ∧ ∀ item ∈ items, item.IsEntry
  nodup : ((infoFields members).map Prod.fst).Nodup
  scalars : ∀ field ∈ infoFields members, field.2.isAbsentOr isScalar = true

private theorem entryFields_fieldsOf (members : List (String × Json)) :
    BundleKey.entryFields
        ((fieldsOf BundleKey.all BundleKey.label members).map (Prod.map id .ofJson)) =
      (entryValues members).map .ofJson := by
  induction members with
  | nil => rfl
  | cons member rest ih =>
    obtain ⟨name, value⟩ := member
    simp only [fieldsOf, entryValues] at ih ⊢
    rw [List.filterMap_cons, BundleKey.find?_all]
    by_cases hname : name = BundleKey.entries.label
    · subst hname
      rw [BundleKey.find?_info_entries]
      simpa [BundleKey.entryFields] using ih
    · cases InfoKey.all.find? fun key ↦ key.label == name with
      | none => simpa [hname] using ih
      | some key => simpa [hname, BundleKey.entryFields] using ih

private theorem infoFields_fieldsOf (members : List (String × Json)) :
    BundleKey.infoFields
        ((fieldsOf BundleKey.all BundleKey.label members).map (Prod.map id .ofJson)) =
      (infoFields members).map (Prod.map id .ofJson) := by
  induction members with
  | nil => rfl
  | cons member rest ih =>
    obtain ⟨name, value⟩ := member
    simp only [infoFields, fieldsOf] at ih ⊢
    rw [List.filterMap_cons, List.filterMap_cons, BundleKey.find?_all]
    cases InfoKey.all.find? fun key ↦ key.label == name with
    | some key => simpa [BundleKey.infoFields] using ih
    | none =>
      by_cases hname : name = BundleKey.entries.label
      · simpa [hname, BundleKey.infoFields] using ih
      · simpa [hname] using ih

end Json

namespace SingleSource

/-- Exactly the lists of entries yield entries, item by item. -/
theorem entries?_eq_some_iff {j : Json} {es : List Entry} :
    entries? (.ofJson j) = some es ↔
      ∃ items, j = .list items ∧ items.map Entry.ofJson? = es.map some := by
  cases j with
  | list items =>
    rw [Document.ofJson, Document.ofJsonItems_eq_map, entries?, Entry.ofDocuments?_eq_some_iff,
      List.map_map]
    simp only [Json.list.injEq, exists_eq_left']
    exact Iff.rfl
  | _ => simp [Document.ofJson, entries?]

private theorem exists_entries_iff (items : List Json) :
    (∃ es : List Entry, items.map Entry.ofJson? = es.map some) ↔ ∀ item ∈ items, item.IsEntry := by
  induction items with
  | nil => exact ⟨fun _ _ h ↦ absurd h List.not_mem_nil, fun _ ↦ ⟨[], rfl⟩⟩
  | cons item rest ih =>
    rw [List.forall_mem_cons, ← ih, ← Entry.isSome_ofJson?_iff]
    constructor
    · rintro ⟨es, h⟩
      cases es with
      | nil => cases h
      | cons e es =>
        rw [List.map_cons, List.map_cons, List.cons.injEq] at h
        exact ⟨by rw [h.1]; rfl, es, h.2⟩
    · rintro ⟨hitem, es, hrest⟩
      obtain ⟨e, he⟩ := Option.isSome_iff_exists.mp hitem
      exact ⟨e :: es, by rw [List.map_cons, List.map_cons, he, hrest]⟩

/-- Reading an object as a bundle, in terms of its members. -/
theorem bundle?_eq_some_iff {members : List (String × Json)} {source : SingleSource} :
    bundle? (.ofJson (.object members)) = some source ↔
      ∃ items es info, Json.entryValues members = [.list items] ∧
        items.map Entry.ofJson? = es.map some ∧
        CatalogInfo.ofFields? ((Json.infoFields members).map (Prod.map id .ofJson)) = some info ∧
        source = bundle info es := by
  rw [Document.ofJson, bundle?, Document.mapFields?_ofJsonMembers BundleKey.all BundleKey.label
    (fun s ↦ rfl), Option.bind_eq_bind, Option.bind_some, Json.entryFields_fieldsOf,
    Json.infoFields_fieldsOf]
  constructor
  · intro h
    -- The member that holds the entries must be there, and only once.
    cases hvalues : Json.entryValues members with
    | nil => rw [hvalues] at h; cases h
    | cons j rest =>
      cases rest with
      | nil =>
        rw [hvalues, List.map_singleton] at h
        obtain ⟨es, hes, hrest⟩ := Option.bind_eq_some_iff.mp h
        obtain ⟨info, hinfo, hsource⟩ := Option.bind_eq_some_iff.mp hrest
        obtain ⟨items, rfl, hitems⟩ := entries?_eq_some_iff.mp hes
        exact ⟨items, es, info, rfl, hitems, hinfo, (Option.some.inj hsource).symm⟩
      | cons j' rest => rw [hvalues] at h; cases h
  · rintro ⟨items, es, info, hvalues, hitems, hinfo, rfl⟩
    have hes : entries? (.ofJson (.list items)) = some es :=
      entries?_eq_some_iff.mpr ⟨items, rfl, hitems⟩
    rw [hvalues, hinfo]
    simp [hes]

/-- Exactly the bundles are read as such. -/
theorem isSome_bundle?_iff (members : List (String × Json)) :
    (bundle? (.ofJson (.object members))).isSome = true ↔ Json.IsBundle members := by
  rw [Option.isSome_iff_exists]
  constructor
  · rintro ⟨source, h⟩
    obtain ⟨items, es, info, hvalues, hitems, hinfo, -⟩ := bundle?_eq_some_iff.mp h
    obtain ⟨hnodup, hscalars⟩ :=
      (CatalogInfo.isSome_ofFields?_iff _).mp (Option.isSome_of_eq_some hinfo)
    exact ⟨⟨items, hvalues, (exists_entries_iff items).mp ⟨es, hitems⟩⟩, hnodup, hscalars⟩
  · rintro ⟨⟨items, hvalues, hentries⟩, hnodup, hscalars⟩
    obtain ⟨es, hitems⟩ := (exists_entries_iff items).mpr hentries
    obtain ⟨info, hinfo⟩ := Option.isSome_iff_exists.mp
      ((CatalogInfo.isSome_ofFields?_iff _).mpr ⟨hnodup, hscalars⟩)
    exact ⟨_, bundle?_eq_some_iff.mpr ⟨items, es, info, hvalues, hitems, hinfo, rfl⟩⟩

end SingleSource

/-! ### Items of a file -/

namespace Json

/-- The items of a catalog value: those of a list, or of a list under the key for entries. -/
inductive HoldsItems : Json → List Json → Prop
  | ofList (items : List Json) : HoldsItems (list items) items
  | ofObject {members : List (String × Json)} {items : List Json}
      (h : (BundleKey.entries.label, Json.list items) ∈ members) : HoldsItems (object members) items

/-- A value that reads as one entry although it is a list, or an object that is no bundle. -/
def IsSwallowed : Json → Prop
  | list items => (list items).IsEntry
  | object members => ¬IsBundle members ∧ (object members).IsEntry
  | _ => False

private theorem HoldsItems.entryValues_eq {members : List (String × Json)}
    {items items' : List Json}
    (h : (object members).HoldsItems items) (hvalues : entryValues members = [list items']) :
    items' = items := by
  cases h with
  | ofObject hmem =>
    have hitems : list items ∈ entryValues members :=
      List.mem_map.mpr ⟨_, List.mem_filter.mpr ⟨hmem, beq_self_eq_true _⟩, rfl⟩
    rw [hvalues, List.mem_singleton, list.injEq] at hitems
    exact hitems.symm

end Json

namespace SingleSource

/-- The entries of a single document, in order. -/
def toEntries : SingleSource → List Entry
  | list es => es
  | bundle _ es => es
  | entry e => [e]

private theorem map_entry_toSource (path : String) (source : SingleSource) :
    (source.toSource path).entries.map (·.entry) = source.toEntries := by
  cases source with
  | list es =>
    rw [toSource, toEntries, List.map_map]
    exact List.map_id es
  | bundle info es =>
    rw [toSource, toEntries, List.map_map]
    exact List.map_id es
  | entry e => rfl

/-- A swallowed value is read as one entry. -/
theorem ofDocument?_of_isSwallowed {j : Json} (h : j.IsSwallowed) :
    ∃ e, Entry.ofJson? j = some e ∧ ofDocument? (.ofJson j) = some (entry e) := by
  cases j with
  | list items =>
    obtain ⟨e, he⟩ :=
      Option.isSome_iff_exists.mp ((Entry.isSome_ofJson?_iff (.list items)).mpr h)
    -- Some item is no entry, so the list is not one of entries and is tried as a single entry.
    have hentries : entries? (.ofJson (.list items)) = none := by
      cases hes : entries? (.ofJson (.list items)) with
      | none => rfl
      | some es =>
        obtain ⟨_, hj, hitems⟩ := entries?_eq_some_iff.mp hes
        cases hj
        exact absurd ((exists_entries_iff items).mp ⟨es, hitems⟩)
          (Json.not_forall_isEntry_of_list h)
    refine ⟨e, he, ?_⟩
    rw [ofDocument?, hentries, ← Entry.ofJson?, he]
    rfl
  | object members =>
    obtain ⟨hbundle, hentry⟩ := h
    obtain ⟨e, he⟩ := Option.isSome_iff_exists.mp ((Entry.isSome_ofJson?_iff _).mpr hentry)
    rw [← isSome_bundle?_iff, Bool.not_eq_true, Option.isSome_eq_false_iff,
      Option.isNone_iff_eq_none] at hbundle
    refine ⟨e, he, ?_⟩
    rw [ofDocument?, hbundle, ← Entry.ofJson?, he]
    rfl
  | _ => exact absurd h not_false

private theorem map_some_toEntries {j : Json} {items : List Json} {source : SingleSource}
    (hj : ¬j.IsSwallowed) (hitems : j.HoldsItems items)
    (h : ofDocument? (.ofJson j) = some source) :
    source.toEntries.map some = items.map Entry.ofJson? := by
  cases j with
  | list items' =>
    cases hitems
    cases hes : entries? (.ofJson (.list items)) with
    | none =>
      -- Only one entry is left, and reading the list as that is what swallowing means.
      rw [ofDocument?, hes] at h
      obtain ⟨e, he, -⟩ := Option.map_eq_some_iff.mp h
      exact absurd ((Entry.isSome_ofJson?_iff _).mp (Option.isSome_of_eq_some he)) hj
    | some es =>
      rw [ofDocument?, hes] at h
      cases h
      obtain ⟨_, hlist, hread⟩ := entries?_eq_some_iff.mp hes
      cases hlist
      exact hread.symm
  | object members =>
    cases hbundle : bundle? (.ofJson (.object members)) with
    | none =>
      rw [ofDocument?, hbundle] at h
      obtain ⟨e, he, -⟩ := Option.map_eq_some_iff.mp h
      have hentry := (Entry.isSome_ofJson?_iff _).mp (Option.isSome_of_eq_some he)
      have hnot : ¬Json.IsBundle members := by
        rw [← isSome_bundle?_iff, hbundle]
        exact Bool.false_ne_true
      exact absurd ⟨hnot, hentry⟩ hj
    | some bundled =>
      rw [ofDocument?, hbundle] at h
      cases h
      obtain ⟨items', es, info, hvalues, hread, -, rfl⟩ := bundle?_eq_some_iff.mp hbundle
      rw [← hitems.entryValues_eq hvalues]
      exact hread.symm
  | _ => cases hitems

end SingleSource

namespace CatalogSource

private theorem ofText_eq_ok {text : String} {j : Json}
    (h : (Json.ofText text).toOption = some j) : Json.ofText text = .ok j := by
  cases hread : Json.ofText text with
  | error e =>
    rw [hread] at h
    cases h
  | ok value =>
    rw [hread] at h
    rw [Option.some.inj h]

/-- Loading a single JSON file: its value is read as a catalog, or the file is malformed. -/
theorem load_json {path text : String} {j : Json} (hpath : FileFormat.ofPath? path = some .json)
    (htext : Json.ofText text = .ok j) :
    load Formats.standard path (some (.file (some text))) =
      match SingleSource.ofDocument? (.ofJson j) with
      | some source => .ok (source.toSource path)
      | none => .error (.malformed path "the document holds no catalog") := by
  rw [load, ofFile, hpath]
  simp only [readContent, Formats.standard, Formats.singleSource, Formats.document, htext]
  cases h : SingleSource.ofDocument? (.ofJson j) with
  | none => simp [Formats.worded, Except.map, h, bind, Except.bind]
  | some source => simp [Formats.worded, Except.map, h, bind, Except.bind, pure, Except.pure]

/-- A single JSON file that holds items is either refused or keeps them, in order, exactly when its
value is not swallowed or its one item yields the entry that the whole value yields. A swallowed
file is loaded as a catalog of one entry without any problem. -/
theorem load_json_keeps_items_iff {path text : String} {j : Json} {items : List Json}
    (hpath : FileFormat.ofPath? path = some .json) (htext : Json.ofText text = .ok j)
    (hitems : j.HoldsItems items) :
    ((∀ source, load Formats.standard path (some (.file (some text))) = .ok source →
        source.entries.map (some ·.entry) = items.map Entry.ofJson?) ↔
      (j.IsSwallowed → items.map Entry.ofJson? = [Entry.ofJson? j])) ∧
    (j.IsSwallowed → ∃ e, Entry.ofJson? j = some e ∧
      load Formats.standard path (some (.file (some text))) =
        .ok ⟨.blank, [⟨path, true, e⟩], []⟩) := by
  have hload := load_json hpath htext
  have hone : j.IsSwallowed → ∃ e, Entry.ofJson? j = some e ∧
      load Formats.standard path (some (.file (some text))) =
        .ok ⟨.blank, [⟨path, true, e⟩], []⟩ := by
    intro hj
    obtain ⟨e, he, hread⟩ := SingleSource.ofDocument?_of_isSwallowed hj
    rw [hread] at hload
    exact ⟨e, he, hload⟩
  refine ⟨⟨?_, ?_⟩, hone⟩
  · intro hkeeps hj
    obtain ⟨e, he, hok⟩ := hone hj
    rw [← hkeeps _ hok, he]
    rfl
  · intro hsame source hok
    by_cases hj : j.IsSwallowed
    · obtain ⟨e, he, hone⟩ := hone hj
      rw [hone] at hok
      cases hok
      rw [hsame hj, he]
      rfl
    -- A value that is not swallowed is refused or keeps its items.
    · rw [hload] at hok
      cases hread : SingleSource.ofDocument? (.ofJson j) with
      | none => rw [hread] at hok; cases hok
      | some single =>
        rw [hread] at hok
        cases hok
        rw [← SingleSource.map_some_toEntries hj hitems hread,
          ← SingleSource.map_entry_toSource path, List.map_map]
        rfl

/-- A list of one entry and a number. -/
theorem load_json_keeps_items_iff_mixed_list :
    let j := Json.list [.object [], .int 1]
    let loaded := load Formats.standard "catalog.json" (some (.file (some "[\x7b\x7d,1]")))
    FileFormat.ofPath? "catalog.json" = some .json ∧ Json.ofText "[\x7b\x7d,1]" = .ok j ∧
    j.HoldsItems [.object [], .int 1] ∧
    ((∀ source, loaded = .ok source →
        source.entries.map (some ·.entry) = [.object [], .int 1].map Entry.ofJson?) ↔
      (j.IsSwallowed → [.object [], .int 1].map Entry.ofJson? = [Entry.ofJson? j])) ∧
    (j.IsSwallowed → ∃ e, Entry.ofJson? j = some e ∧
      loaded = .ok ⟨.blank, [⟨"catalog.json", true, e⟩], []⟩) := by
  intro j loaded
  have hpath : FileFormat.ofPath? "catalog.json" = some .json := by decide
  have htext : Json.ofText "[\x7b\x7d,1]" = .ok j := ofText_eq_ok (by decide +kernel)
  have hitems : j.HoldsItems [.object [], .int 1] := .ofList _
  exact ⟨hpath, htext, hitems, load_json_keeps_items_iff hpath htext hitems⟩

/-- A bundle of two entries, of which the second one is malformed, is loaded as one entry. -/
theorem load_json_loses_items :
    let text := "\x7b\"certifications\":[\x7b\"id\":\"a\"\x7d,\x7b\"id\":[]\x7d]\x7d"
    ∃ j items source, Json.ofText text = .ok j ∧ j.HoldsItems items ∧
      load Formats.standard "catalog.json" (some (.file (some text))) = .ok source ∧
      source.entries.length = 1 ∧ items.length = 2 := by
  intro text
  have hpath : FileFormat.ofPath? "catalog.json" = some .json := by decide
  have htext : Json.ofText
      "\x7b\"certifications\":[\x7b\"id\":\"a\"\x7d,\x7b\"id\":[]\x7d]\x7d" =
        .ok (.object [("certifications",
          .list [.object [("id", .text "a")], .object [("id", .list [])]])]) :=
    ofText_eq_ok (by decide +kernel)
  have hread : SingleSource.ofDocument? (.ofJson (.object [("certifications",
      .list [.object [("id", .text "a")], .object [("id", .list [])]])])) =
        some (.entry .blank) := by rfl
  have hload := load_json hpath htext
  rw [hread] at hload
  exact ⟨_, _, _, htext, .ofObject (List.mem_singleton_self _), hload, rfl, rfl⟩

end CatalogSource

end CertCatalog
