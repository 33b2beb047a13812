import CertCatalog.Vocabulary

/-!
# Files and folders

A path is a text of components separated by slashes. Empty components and inner single dots mean
nothing. The last component names the file, and its last point separates stem and extension. A tree
holds folders and files. The content of a file is its text, or nothing when its bytes are not the
encoding of a text. A path leads from a folder to a node of the tree.
-/

namespace CertCatalog.Files

/-! ### Paths -/

/-- The pieces of a list between the separators. -/
def splitAt (separator : Char) : List Char → List (List Char)
  | [] => [[]]
  | c :: cs =>
    if c = separator then [] :: splitAt separator cs
    else
      match splitAt separator cs with
      | [] => [[c]]
      | piece :: pieces => (c :: piece) :: pieces

/-- The texts of a path between its slashes. -/
def segments (path : String) : List String := (splitAt '/' path.toList).map String.ofList

/-- A path that starts at the root of the file system. -/
def isAbsolute (path : String) : Bool := path.toList.head? == some '/'

/-- The components of a path. A single dot counts only in front of a relative path. -/
def components (path : String) : List String :=
  let leadingDot := if (segments path).head? == some "." then ["."] else []
  let root := if isAbsolute path then ["/"] else []
  root ++ leadingDot ++ (segments path).filter fun s ↦ !s.isEmpty && s != "."

/-- Paths with the same components are the same path. -/
def samePath (a b : String) : Bool := components a == components b

/-- The name of the file at the end of a path. -/
def fileName? (path : String) : Option String :=
  match (components path).getLast? with
  | some name => if name == ".." || name == "." || name == "/" then none else some name
  | none => none

/-- The name of the file, or the whole path without one. -/
def fileLabel (path : String) : String := (fileName? path).getD path

/-- Stem and extension of a file name, separated by its last point unless that comes first. -/
def splitExtension (name : String) : String × Option String :=
  let reversed := name.toList.reverse
  match reversed.dropWhile (· != '.') with
  | _ :: before =>
    if before.isEmpty then (name, none)
    else
      (String.ofList before.reverse, some (String.ofList (reversed.takeWhile (· != '.')).reverse))
  | [] => (name, none)

/-- The stem of the file name of a path, empty without a file name. -/
def stem (path : String) : String := ((fileName? path).map fun n ↦ (splitExtension n).1).getD ""

/-- The extension of the file name of a path. -/
def extension? (path : String) : Option String := (fileName? path).bind fun n ↦ (splitExtension n).2

/-- A file name below a path. -/
def join (path name : String) : String :=
  match path.toList.getLast? with
  | none => name
  | some '/' => path ++ name
  | some _ => path ++ "/" ++ name

/-! ### Trees -/

/-- A file or a folder. -/
inductive Node
  | file (content : Option String)
  | folder (entries : List (String × Node))

namespace Node

/-- The node is a folder. -/
def isFolder : Node → Bool
  | folder _ => true
  | file _ => false

/-- The text of a file, nothing of a folder. -/
def text? : Node → Option String
  | file content => content
  | folder _ => none

/-- The entries of a folder, none of a file. -/
def entries : Node → List (String × Node)
  | folder entries => entries
  | file _ => []

/-- The entry of a folder with a name. -/
def child? (n : Node) (name : String) : Option Node := n.entries.lookup name

/-- The entries of a folder by name, in code point order. -/
def sortedEntries (n : Node) : List (String × Node) :=
  n.entries.mergeSort fun a b ↦ textLe a.1 b.1

/-- The node that segments of a path lead to from a folder, whose parents are listed nearest first.
Every segment but the last must lead to a folder. -/
def follow (parents : List Node) (n : Node) : List String → Option Node
  | [] => some n
  | segment :: rest =>
    if !n.isFolder then none
    else if segment.isEmpty || segment == "." then follow parents n rest
    else if segment == ".." then
      match parents with
      | parent :: parents => follow parents parent rest
      | [] => none
    else
      match n.child? segment with
      | some child => follow (n :: parents) child rest
      | none => none

/-- The node at a path relative to a folder. -/
def at? (n : Node) (path : String) : Option Node :=
  if path.isEmpty || isAbsolute path then none else follow [] n (segments path)

/-- The folder with a node placed at the end of a list of names, creating the folders on the way. -/
def place (n : Node) (names : List String) (leaf : Node) : Node :=
  match names with
  | [] => leaf
  | name :: rest =>
    let child := (n.child? name).getD (folder [])
    folder (n.entries.filter (·.1 != name) ++ [(name, place child rest leaf)])

end Node
end CertCatalog.Files
