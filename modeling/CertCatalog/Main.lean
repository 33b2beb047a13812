import CertCatalog.CommandLine.Outcome

/-!
# The program

Reads settings, environment and catalog files, and prints the outcome of its arguments.
-/

namespace CertCatalog.CommandLine

/-- The text of a file, if there is one and its bytes are the encoding of a text. -/
def readText? (path : String) : IO (Option String) := do
  try
    return String.fromUTF8? (← IO.FS.readBinFile path)
  catch _ =>
    return none

/-- What is at a path, with folders down to some depth. -/
def readNode? (depth : Nat) (path : String) : IO (Option Files.Node) := do
  if path.isEmpty then return none
  let place := (← IO.currentDir) / path
  if !(← place.pathExists) then return none
  if !(← place.isDir) then return some (.file (← readText? path))
  match depth with
  | 0 => return some (.folder [])
  | depth + 1 =>
    let mut nodes : List (String × Files.Node) := []
    for entry in ← place.readDir do
      if let some node ← readNode? depth (Files.join path entry.fileName) then
        nodes := (entry.fileName, node) :: nodes
    return some (.folder nodes)

/-- Depth of a catalog folder with its folder of entries. -/
def catalogDepth : Nat := 2

/-- Environment variable for the path of the catalog. -/
def catalogVariable : String := "CERTQ_CATALOG"

/-- The settings of the working folder, else those of the home folder. -/
def readSettings : IO Settings := do
  let localText ← readText? Settings.localFile
  let homeText ← match ← IO.getEnv "HOME" with
    | some home => readText? (Files.join home Settings.homeFile)
    | none => pure none
  return .ofPlaces [localText, homeText]

/-- The surroundings of a task, with the files of its catalog. -/
def readSurroundings (options : GeneralOptions) : IO Surroundings := do
  let surroundings : Surroundings := {
    settings := ← readSettings
    environmentCatalog := ← IO.getEnv catalogVariable
    nodeAt := fun _ ↦ none
    formats := .standard }
  let node ← readNode? catalogDepth (surroundings.catalogPath options)
  return { surroundings with nodeAt := fun _ ↦ node }

/-- The outcome of the arguments of the program in its real surroundings. -/
def outcomeOf (arguments : List String) : IO Outcome := do
  let options := match Invocation.ofArguments? arguments with
    | some (.task options _) => options
    | _ => ⟨none, false, none⟩
  return (← readSurroundings options).run arguments

end CertCatalog.CommandLine

/-- The program. -/
def main (arguments : List String) : IO UInt32 := do
  let outcome ← CertCatalog.CommandLine.outcomeOf arguments
  IO.print outcome.output
  IO.eprint outcome.errors
  return outcome.status
