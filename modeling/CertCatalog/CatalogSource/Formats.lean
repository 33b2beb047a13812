import CertCatalog.CatalogSource.Basic
import CertCatalog.Files
import CertCatalog.Json.Reader
import CertCatalog.Text.LetterCase
import CertCatalog.Yaml.Tree

/-!
# Catalog files

One document holds a catalog in one of three forms: a list of entries, a bundle of entries with
information about the catalog, or one entry. The forms are tried in this order. A catalog file is
written in JSON or YAML, as its extension says. Only YAML files hold the entries of a catalog
folder.
-/

namespace CertCatalog

/-! ### Forms of a catalog -/

/-- A catalog in one document. -/
inductive SingleSource
  | list (entries : List Entry)
  | bundle (info : CatalogInfo) (entries : List Entry)
  | entry (entry : Entry)

/-- A key of a bundle. -/
inductive BundleKey
  | info (key : InfoKey)
  | entries
  deriving DecidableEq, Repr

namespace BundleKey

/-- Every key. -/
def all : List BundleKey := InfoKey.all.map info ++ [entries]

/-- Name of a key in documents. -/
def label : BundleKey → String
  | info key => key.label
  | entries => "certifications"

/-- The values of the information keys. -/
def infoFields (fields : List (BundleKey × Document)) : List (InfoKey × Document) :=
  fields.filterMap fun
    | (info key, d) => some (key, d)
    | (entries, _) => none

/-- The values of the key for entries. -/
def entryFields (fields : List (BundleKey × Document)) : List Document :=
  fields.filterMap fun
    | (entries, d) => some d
    | (info _, _) => none

end BundleKey

namespace SingleSource

/-- The entries of a list. -/
def entries? : Document → Option (List Entry)
  | .list items => Entry.ofDocuments? items
  | _ => none

/-- The bundle of a map, whose entries stand under one key. -/
def bundle? : Document → Option SingleSource
  | .map members => do
    let fields ← Document.mapFields? (Document.namedKey? BundleKey.all BundleKey.label) members
    match BundleKey.entryFields fields with
    | [d] =>
      let entries ← entries? d
      let info ← CatalogInfo.ofFields? (BundleKey.infoFields fields)
      return bundle info entries
    | _ => none
  | _ => none

/-- The catalog of a document. -/
def ofDocument? (d : Document) : Option SingleSource :=
  (entries? d).map list <|> bundle? d <|> (Entry.ofDocument? d).map entry

/-- The source of a catalog in one document at a path. -/
def toSource (path : String) : SingleSource → CatalogSource
  | list es => ⟨.blank, es.map (⟨path, false, ·⟩), []⟩
  | bundle info es => ⟨info, es.map (⟨path, false, ·⟩), []⟩
  | entry e => ⟨.blank, [⟨path, true, e⟩], []⟩

end SingleSource

/-! ### Formats of files -/

/-- A format of catalog files. -/
inductive FileFormat
  | json
  | yaml
  deriving DecidableEq, Repr

/-- The format of a path by its extension, in any case of ASCII letters. -/
def FileFormat.ofPath? (path : String) : Option FileFormat :=
  match (Files.extension? path).map Text.foldAscii with
  | some e =>
    if e = "yaml".toList ∨ e = "yml".toList then some yaml
    else if e = "json".toList then some json
    else none
  | none => none

/-- Readers of the formats. A reader that fails says why. -/
structure Formats where
  single : FileFormat → String → Except String SingleSource
  entry : String → Except String Entry
  info : String → Except String CatalogInfo

namespace Formats

/-- An outcome whose failure is put into words. -/
def worded {ε α : Type} (message : ε → String) : Except ε α → Except String α
  | .ok a => .ok a
  | .error e => .error (message e)

/-- The document of a text. -/
def document : FileFormat → String → Except String Document
  | .json, s => (worded Json.ReadError.message (Json.ofText s)).map Document.ofJson
  | .yaml, s => worded Yaml.Error.message (Yaml.documentOfText s)

/-- The catalog of a text. -/
def singleSource (format : FileFormat) (s : String) : Except String SingleSource :=
  match document format s with
  | .error reason => .error reason
  | .ok d =>
    match SingleSource.ofDocument? d with
    | some source => .ok source
    | none => .error "the document holds no catalog"

/-- The readers of JSON and YAML. -/
def standard : Formats where
  single := singleSource
  entry s :=
    worded Yaml.Error.message (Yaml.readFields EntryKey.all EntryKey.label Entry.ofFields? s)
  info s :=
    worded Yaml.Error.message (Yaml.readFields InfoKey.all InfoKey.label CatalogInfo.ofFields? s)

end Formats
end CertCatalog
