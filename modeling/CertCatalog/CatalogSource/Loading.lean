import CertCatalog.CatalogSource.Formats
import CertCatalog.Files

/-!
# Loading catalogs

A catalog is a folder with one YAML file for each entry, or a single file. A file of a folder that
cannot be read is a problem of its own and does not affect the others; a single file that cannot be
read is an error.
-/

namespace CertCatalog

/-- Why a catalog cannot be loaded. -/
inductive LoadError
  | notFound (path : String)
  | unreadable (path : String)
  | malformed (path reason : String)
  | unsupported (path : String)
  deriving DecidableEq, Repr

namespace LoadError

/-- What is wrong with the bytes of an unreadable file. -/
def encodingMessage : String := "stream did not contain valid UTF-8"

/-- The wording of an error. -/
def message : LoadError → String
  | notFound path =>
    "Catalog not found at '" ++ path ++ "'\n\n" ++
    "Suggestion: point certq at a catalog directory or file.\n" ++
    "Example: certq --catalog data search \"provider:giac\"\n" ++
    "Or set \x60catalog = \"data\"\x60 in .certqrc.toml"
  | unreadable path => "Failed to read catalog file '" ++ path ++ "': " ++ encodingMessage
  | malformed path reason =>
    "Failed to parse catalog file '" ++ path ++ "': " ++ reason ++ "\n\n" ++
    "Suggestion: run 'certq validate' after fixing the document."
  | unsupported path =>
    "Unsupported catalog format: '" ++ path ++ "'\n\n" ++
    "Supported: a directory of .yaml files, or a single .yaml/.yml/.json file"

/-- The causes that a report names behind an error. -/
def causes : LoadError → List String
  | unreadable _ => [encodingMessage]
  | _ => []

end LoadError

namespace CatalogSource

/-- Name of the folder of entries inside a catalog folder. -/
def entriesFolder : String := "certifications"

/-- Name of the file with information about a catalog folder. -/
def infoFile : String := "index.yaml"

/-- The content of a file, read in some way. -/
def readContent {α : Type} (path : String) (content : Option String)
    (read : String → Except String α) : Except LoadError α :=
  match content with
  | none => .error (.unreadable path)
  | some text =>
    match read text with
    | .ok a => .ok a
    | .error reason => .error (.malformed path reason)

/-- The reason of a problem: why a file is malformed, or the whole wording of another error. -/
def problemReason : LoadError → String
  | .malformed _ reason => reason
  | e => e.message

/-- The source of a catalog in a single file. -/
def ofFile (formats : Formats) (path : String) (content : Option String) :
    Except LoadError CatalogSource := do
  match FileFormat.ofPath? path with
  | none => throw (.unsupported path)
  | some format => return (← readContent path content (formats.single format)).toSource path

/-- What a catalog folder says about the catalog, nothing where that cannot be read. -/
def folderInfo (formats : Formats) (folder : Files.Node) : CatalogInfo :=
  match folder.child? infoFile with
  | some (.file content) =>
    match readContent infoFile content formats.info with
    | .ok info => info
    | .error _ => .blank
  | _ => .blank

/-- The outcome of reading one file of a folder. -/
inductive FileOutcome
  | entry (entry : SourcedEntry)
  | problem (problem : SourceProblem)

/-- The entry of an outcome. -/
def FileOutcome.sourced? : FileOutcome → Option SourcedEntry
  | entry e => some e
  | problem _ => none

/-- The problem of an outcome. -/
def FileOutcome.problem? : FileOutcome → Option SourceProblem
  | entry _ => none
  | problem p => some p

/-- The outcome of reading a file that should hold one entry. -/
def readEntryFile (formats : Formats) (path : String) (content : Option String) : FileOutcome :=
  match readContent path content formats.entry with
  | .ok entry => .entry ⟨path, true, entry⟩
  | .error e => .problem ⟨path, problemReason e⟩

/-- The entry files of a folder at a path: its YAML files except the one at `infoPath`, by name. -/
def entryFiles (infoPath path : String) (folder : Files.Node) : List (String × Option String) :=
  folder.sortedEntries.filterMap fun (name, node) ↦
    let filePath := Files.join path name
    match node with
    | .file content =>
      if FileFormat.ofPath? filePath = some .yaml ∧ !Files.samePath filePath infoPath then
        some (filePath, content)
      else none
    | .folder _ => none

/-- The folder of entries of a catalog folder with its path: a folder inside it, or itself. -/
def entryFolder (path : String) (folder : Files.Node) : String × Files.Node :=
  match folder.child? entriesFolder with
  | some (.folder entries) => (Files.join path entriesFolder, .folder entries)
  | _ => (path, folder)

/-- The source of a catalog folder at a path. -/
def ofFolder (formats : Formats) (path : String) (folder : Files.Node) : CatalogSource :=
  let (entriesPath, entries) := entryFolder path folder
  let files := entryFiles (Files.join path infoFile) entriesPath entries
  let outcomes := files.map fun (filePath, content) ↦ readEntryFile formats filePath content
  { info := folderInfo formats folder
    entries := outcomes.filterMap FileOutcome.sourced?
    problems := outcomes.filterMap FileOutcome.problem? }

/-- The source of the catalog at a path, given what is there. -/
def load (formats : Formats) (path : String) : Option Files.Node → Except LoadError CatalogSource
  | none => .error (.notFound path)
  | some (.file content) => ofFile formats path content
  | some (.folder entries) => .ok (ofFolder formats path (.folder entries))

end CatalogSource
end CertCatalog
