import CertCatalog.Entry.Reading

/-!
# Entries in JSON

Which JSON values read as an entry is said by the values alone: every known key occurs once at most
and holds a scalar, a list of scalars where the key takes lists, or null.
-/

namespace CertCatalog

namespace Json

/-- A Boolean, a number or a text. -/
def isScalar : Json → Bool
  | bool _ => true
  | int _ => true
  | float _ => true
  | text _ => true
  | _ => false

/-- A list of scalars, or one scalar. -/
def isListed : Json → Bool
  | list items => items.all isScalar
  | j => j.isScalar

/-- Nothing, or a value that passes a test. -/
def isAbsentOr (accepts : Json → Bool) : Json → Bool
  | null => true
  | j => accepts j

/-- The members of an object whose names are among those of some keys, in order. -/
def fieldsOf {κ : Type} (keys : List κ) (label : κ → String) (members : List (String × Json)) :
    List (κ × Json) :=
  members.filterMap fun (name, value) ↦
    (keys.find? fun key ↦ label key == name).map (·, value)

theorem map_fst_fields {κ : Type} (fields : List (κ × Json)) :
    (fields.map (Prod.map id Document.ofJson)).map Prod.fst = fields.map Prod.fst := by
  rw [List.map_map]
  rfl

end Json

/-- The key of an entry can hold the value. -/
def EntryKey.admits : EntryKey → Json → Bool
  | .scalar _, j => j.isAbsentOr Json.isScalar
  | .list _, j => j.isAbsentOr Json.isListed

/-- Exactly the scalars are read as scalars. -/
theorem Scalar.isSome_ofDocument? (j : Json) :
    (Scalar.ofDocument? (.ofJson j)).isSome = j.isScalar := by
  cases j <;> rfl

private theorem Scalar.isSome_ofDocuments? (items : List Json) :
    (Scalar.ofDocuments? (items.map .ofJson)).isSome = items.all Json.isScalar := by
  induction items with
  | nil => rfl
  | cons j rest ih =>
    rw [List.map_cons, List.all_cons, ← ih, ← isSome_ofDocument?, ofDocuments?]
    cases ofDocument? (.ofJson j) with
    | none => rfl
    | some s => cases ofDocuments? (rest.map .ofJson) <;> rfl

/-- Exactly the scalars and lists of scalars are read as list fields. -/
theorem Listed.isSome_ofDocument? (j : Json) :
    (Listed.ofDocument? (.ofJson j)).isSome = j.isListed := by
  cases j with
  | list items =>
    rw [Document.ofJson, Document.ofJsonItems_eq_map, Listed.ofDocument?, Option.isSome_map,
      Scalar.isSome_ofDocuments?, Json.isListed]
  | _ => rfl

/-- A null value counts as absent, and any other one must be readable. -/
theorem Document.isSome_present? {α : Type} {read : Document → Option α} {accepts : Json → Bool}
    (h : ∀ j, (read (.ofJson j)).isSome = accepts j) (j : Json) :
    (Document.present? read (.ofJson j)).isSome = j.isAbsentOr accepts := by
  cases j with
  | null => rfl
  | _ => exact Option.isSome_map.trans (h _)

/-- The members with known names are the fields of an object. -/
theorem Document.mapFields?_ofJsonMembers {κ : Type} (keys : List κ) (label : κ → String)
    {key? : Document → Option (Option κ)}
    (hkey : ∀ s, key? (.text s) = some (keys.find? fun key ↦ label key == s))
    (members : List (String × Json)) :
    Document.mapFields? key? (Document.ofJsonMembers members) =
      some ((Json.fieldsOf keys label members).map (Prod.map id .ofJson)) := by
  induction members with
  | nil => rfl
  | cons member rest ih =>
    obtain ⟨name, value⟩ := member
    rw [Document.ofJsonMembers, Document.mapFields?, hkey, ih]
    cases h : keys.find? fun key ↦ label key == name <;> simp [Json.fieldsOf, h]

namespace Entry

/-- The entry of a JSON value. -/
def ofJson? (j : Json) : Option Entry := ofDocument? (.ofJson j)

private theorem isSome_withField? (e : Entry) (key : EntryKey) (j : Json) :
    (e.withField? key (.ofJson j)).isSome = key.admits j := by
  cases key with
  | scalar key =>
    rw [withField?, Option.isSome_map, Document.isSome_present? Scalar.isSome_ofDocument?,
      EntryKey.admits]
  | list key =>
    rw [withField?, Option.isSome_map, Document.isSome_present? Listed.isSome_ofDocument?,
      EntryKey.admits]

private theorem isSome_withFields? (e : Entry) (fields : List (EntryKey × Json)) :
    (e.withFields? (fields.map (Prod.map id .ofJson))).isSome =
      fields.all fun field ↦ field.1.admits field.2 := by
  induction fields generalizing e with
  | nil => rfl
  | cons field rest ih =>
    rw [List.map_cons, Prod.map, id_eq, withFields?, List.all_cons, ← isSome_withField? e]
    cases e.withField? field.1 (.ofJson field.2) with
    | none => rfl
    | some e' => exact ih e'

/-- Fields make up an entry when no key occurs twice and each key admits its value. -/
def AreFields (fields : List (EntryKey × Json)) : Prop :=
  (fields.map Prod.fst).Nodup ∧ ∀ field ∈ fields, field.1.admits field.2 = true

/-- Exactly such fields are read as an entry. -/
theorem isSome_ofFields?_iff (fields : List (EntryKey × Json)) :
    (ofFields? (fields.map (Prod.map id .ofJson))).isSome = true ↔ AreFields fields := by
  rw [ofFields?, Json.map_fst_fields, AreFields, ← List.all_eq_true, ← isSome_withFields? blank]
  by_cases h : (fields.map Prod.fst).Nodup
  · simp [h]
  · simp [h]

end Entry

/-- The value reads as an entry: an object whose known members are fields, or a list with one item
for each key that are fields together. -/
def Json.IsEntry : Json → Prop
  | .object members => Entry.AreFields (fieldsOf EntryKey.all EntryKey.label members)
  | .list items =>
    items.length = EntryKey.all.length ∧ Entry.AreFields (EntryKey.all.zip items)
  | _ => False

/-- Exactly such values yield an entry. -/
theorem Entry.isSome_ofJson?_iff (j : Json) : (ofJson? j).isSome = true ↔ j.IsEntry := by
  cases j with
  | object members =>
    rw [ofJson?, Document.ofJson, ofDocument?, Document.fields?,
      Document.mapFields?_ofJsonMembers EntryKey.all EntryKey.label (fun s ↦ rfl),
      Option.bind_some, isSome_ofFields?_iff, Json.IsEntry]
  | list items =>
    rw [ofJson?, Document.ofJson, Document.ofJsonItems_eq_map, ofDocument?, Document.fields?,
      List.length_map, List.zip_map_right, Json.IsEntry]
    by_cases h : items.length = EntryKey.all.length
    · rw [if_pos h, Option.bind_some]
      exact (isSome_ofFields?_iff _).trans ⟨fun hf ↦ ⟨h, hf⟩, And.right⟩
    · rw [if_neg h]
      simp [h]
  | _ => simp [ofJson?, Document.ofJson, ofDocument?, Document.fields?, Json.IsEntry]

/-- A list that reads as an entry has items that read as none. -/
theorem Json.not_forall_isEntry_of_list {items : List Json} (h : (list items).IsEntry) :
    ¬∀ item ∈ items, item.IsEntry := by
  obtain ⟨hlength, -, hadmits⟩ := h
  cases items with
  | nil => exact absurd hlength (by decide)
  | cons item rest =>
    -- The first key of an entry holds a scalar, which is no entry.
    have hfirst : item.isAbsentOr isScalar = true :=
      hadmits (.scalar .id, item) (List.mem_cons_self ..)
    intro hentries
    have hitem := hentries item (List.mem_cons_self ..)
    cases item with
    | list items => simp [isAbsentOr, isScalar] at hfirst
    | object members => simp [isAbsentOr, isScalar] at hfirst
    | _ => exact hitem

end CertCatalog
