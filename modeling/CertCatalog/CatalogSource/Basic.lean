import CertCatalog.Catalog
import CertCatalog.Document
import CertCatalog.Entry.Normal
import CertCatalog.Entry.Reading

/-!
# Catalog sources

A source is a catalog as its documents write it: the entries with the paths they came from, and the
files that could not be read as entries. Title, version and review date of a catalog are scalars of
a document. A blank text and a review date that is no date count as absent.
-/

namespace CertCatalog

/-- An entry with the path of its document, which may hold only this entry. -/
structure SourcedEntry where
  path : String
  hasOwnFile : Bool
  entry : Entry

/-- A file without a readable entry, and why. -/
structure SourceProblem where
  path : String
  reason : String
  deriving DecidableEq, Repr

/-- The entries and unreadable files of a catalog. -/
structure CatalogSource where
  info : CatalogInfo
  entries : List SourcedEntry
  problems : List SourceProblem

/-- The catalog of a source: every entry yields one record. -/
def CatalogSource.toCatalog (s : CatalogSource) : Catalog where
  info := s.info
  records := s.entries.map (·.entry.toRecord)

/-! ### Information about a catalog -/

/-- A key for information about a catalog. -/
inductive InfoKey
  | title
  | version
  | lastReviewed
  deriving DecidableEq, Repr

namespace InfoKey

/-- Every key, in the order of information that is written as a plain list. -/
def all : List InfoKey := [title, version, lastReviewed]

/-- Name of a key in documents. -/
def label : InfoKey → String
  | title => "catalog"
  | version => "version"
  | lastReviewed => "last_reviewed"

end InfoKey

namespace CatalogInfo

/-- The information with the text of a scalar under a key. -/
def withText (info : CatalogInfo) (key : InfoKey) (s : String) : CatalogInfo :=
  match key with
  | .title => { info with title := if s.isEmpty then none else some s }
  | .version => { info with version := if s.isEmpty then none else some s }
  | .lastReviewed => { info with lastReviewed := CalendarDate.ofText? s }

/-- The information with the value of a key, unless it is null. -/
def withField? (info : CatalogInfo) (key : InfoKey) (d : Document) : Option CatalogInfo :=
  (Document.present? Scalar.ofDocument? d).map fun
    | some value => info.withText key value.asText
    | none => info

/-- The information with the values of further keys. -/
def withFields? (info : CatalogInfo) : List (InfoKey × Document) → Option CatalogInfo
  | [] => some info
  | (key, d) :: rest => (info.withField? key d).bind (withFields? · rest)

/-- The information of the values of some keys, none of which occurs twice. -/
def ofFields? (fields : List (InfoKey × Document)) : Option CatalogInfo :=
  if (fields.map (·.1)).Nodup then withFields? blank fields else none

end CatalogInfo
end CertCatalog
