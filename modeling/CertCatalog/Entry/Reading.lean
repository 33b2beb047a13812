import CertCatalog.Document
import CertCatalog.Entry.Basic

/-!
# Reading entries

An entry is read from a document with the 26 keys of entries. A scalar is a Boolean, a number or a
text, and integers beyond the signed ones of 64 bits are taken as floating-point numbers.
-/

namespace CertCatalog

/-- The scalar of a document. -/
def Scalar.ofDocument? : Document → Option Scalar
  | .bool b => some (.bool b)
  | .int n => some (if Integer.isInt64 n then .int (.ofInt n) else .float (.ofInt n))
  | .float x => some (.float x)
  | .text s => some (.text s)
  | _ => none

/-- The scalars of a list of documents. -/
def Scalar.ofDocuments? : List Document → Option (List Scalar)
  | [] => some []
  | d :: rest => do
    let s ← Scalar.ofDocument? d
    let values ← Scalar.ofDocuments? rest
    return s :: values

/-- The list field of a document: a list of scalars, or one scalar. -/
def Listed.ofDocument? : Document → Option Listed
  | .list items => (Scalar.ofDocuments? items).map .many
  | d => (Scalar.ofDocument? d).map .one

namespace Entry

/-- An entry with the value of a key, unless it is null. -/
def withField? (e : Entry) (key : EntryKey) (d : Document) : Option Entry :=
  match key with
  | .scalar key =>
    (Document.present? Scalar.ofDocument? d).map fun
      | some value => e.setScalar key (some value)
      | none => e
  | .list key =>
    (Document.present? Listed.ofDocument? d).map fun
      | some value => e.setList key (some value)
      | none => e

/-- An entry with the values of further keys. -/
def withFields? (e : Entry) : List (EntryKey × Document) → Option Entry
  | [] => some e
  | (key, d) :: rest => (e.withField? key d).bind (withFields? · rest)

/-- The entry of the values of some keys, none of which occurs twice. -/
def ofFields? (fields : List (EntryKey × Document)) : Option Entry :=
  if (fields.map (·.1)).Nodup then withFields? blank fields else none

/-- The entry of a document. -/
def ofDocument? (d : Document) : Option Entry :=
  (Document.fields? EntryKey.all EntryKey.label d).bind ofFields?

/-- The entries of a list of documents. -/
def ofDocuments? : List Document → Option (List Entry)
  | [] => some []
  | d :: rest => do
    let e ← ofDocument? d
    let entries ← ofDocuments? rest
    return e :: entries

/-- Every document of a list yields one entry, in order. -/
theorem ofDocuments?_eq_some_iff {ds : List Document} {es : List Entry} :
    ofDocuments? ds = some es ↔ ds.map ofDocument? = es.map some := by
  induction ds generalizing es with
  | nil => cases es <;> simp [ofDocuments?]
  | cons d rest ih =>
    cases hd : ofDocument? d with
    | none => cases es <;> simp [ofDocuments?, hd]
    | some e =>
      cases es with
      | nil => cases hr : ofDocuments? rest <;> simp [ofDocuments?, hd, hr]
      | cons f fs =>
        rw [List.map_cons, List.map_cons, hd, List.cons.injEq, ← ih]
        cases hr : ofDocuments? rest <;> simp [ofDocuments?, hd, hr]

end Entry
end CertCatalog
