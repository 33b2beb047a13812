import CertCatalog.Toml.Scalar

/-!
# TOML tables

A table grows by single values under dotted keys and by headers that open tables or entries of
table lists. A table that a header opened is closed to dotted keys, one that a dotted key created is
closed to headers, and no value is ever replaced.
-/

namespace CertCatalog.Toml

/-- How a table came into being: by its own header, on the way to another table, or on the way of a
dotted key. -/
inductive Origin
  | header
  | path
  | dotted
  deriving DecidableEq, Repr

/-- What a key of a growing table holds: a finished value, a table, or the tables of a list, last
one first. -/
inductive Item
  | value (v : Value)
  | table (origin : Origin) (entries : List (String × Item))
  | tables (reversed : List (List (String × Item)))

/-- The entries of a growing table. -/
abbrev Entries := List (String × Item)

namespace Entries

/-- The entries with one replaced, or with one more at the end. -/
def put (key : String) (item : Item) : Entries → Entries
  | [] => [(key, item)]
  | (k, i) :: rest => if k = key then (key, item) :: rest else (k, i) :: put key item rest

/-- The entries after a change of the table at a path. Tables on the way are created where they are
missing; a dotted path enters no table that has a header. -/
def changeAt? (dotted : Bool) (change : Origin → Entries → Option Entries) :
    List String → Origin → Entries → Option Entries
  | [], origin, entries => change origin entries
  | key :: path, _, entries =>
    match entries.lookup key with
    | none => do
      let origin := if dotted then Origin.dotted else .path
      let inner ← changeAt? dotted change path origin []
      return entries.put key (.table origin inner)
    | some (.value _) => none
    | some (.table origin inner) => do
      if dotted && origin = .header then none
      else return entries.put key (.table origin (← changeAt? dotted change path origin inner))
    | some (.tables []) => none
    | some (.tables (last :: before)) => do
      return entries.put key (.tables ((← changeAt? dotted change path .header last) :: before))

/-- The entries with one more, if the key is free. A key without a path does not enter the tables
of dotted keys, and one with a path enters only those. -/
def addHere? (hasPath : Bool) (key : String) (v : Value) (origin : Origin) (entries : Entries) :
    Option Entries :=
  if hasPath != (origin == .dotted) || (entries.lookup key).isSome then none
  else some (entries.put key (.value v))

/-- The entries with a value under a dotted key. -/
def add? (path : List String) (key : String) (v : Value) (entries : Entries) : Option Entries :=
  changeAt? true (addHere? (!path.isEmpty) key v) path .header entries

/-- The entries with a table opened by its header. -/
def openTable? (path : List String) (key : String) (entries : Entries) : Option Entries :=
  changeAt? false (fun _ inner ↦
    match inner.lookup key with
    | none => some (inner.put key (.table .header []))
    | some (.table .path entries) => some (inner.put key (.table .header entries))
    | some _ => none) path .header entries

/-- The entries with one more table of a list, opened by its header. -/
def openListed? (path : List String) (key : String) (entries : Entries) : Option Entries :=
  changeAt? false (fun _ inner ↦
    match inner.lookup key with
    | none => some (inner.put key (.tables [[]]))
    | some (.tables reversed) => some (inner.put key (.tables ([] :: reversed)))
    | some _ => none) path .header entries

/-- The entries with a value under a dotted key of the table at a path. -/
def addAt? (table path : List String) (key : String) (v : Value) (entries : Entries) :
    Option Entries :=
  changeAt? false (fun _ inner ↦ inner.add? path key v) table .header entries

end Entries

mutual

/-- The value of a finished item. -/
def Item.toValue : Item → Value
  | .value v => v
  | .table _ entries => .table (entriesToValues entries)
  | .tables reversed => .list (tablesToValues reversed).reverse

/-- The values of finished entries. -/
def entriesToValues : List (String × Item) → List (String × Value)
  | [] => []
  | (key, item) :: rest => (key, item.toValue) :: entriesToValues rest

/-- The values of the tables of a list. -/
def tablesToValues : List (List (String × Item)) → List Value
  | [] => []
  | entries :: rest => .table (entriesToValues entries) :: tablesToValues rest

end

end CertCatalog.Toml
