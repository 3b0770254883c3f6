import BenchQueue.Toml.Value
/-!
# Building TOML documents

A document is built from headers and entries in the order in which they are read. A table remembers
how it came to be, because that decides what may still be added to it: a table with a header of its
own is defined once, one that only a longer header mentions may get its header later, and one that
was made by a dotted key takes further dotted keys only.
-/

namespace BenchQueue.Toml

/-- How a table came to be. -/
inductive Origin
  | implied
  | dotted
  | defined
  deriving DecidableEq, Repr

/-- A part of a document under construction: a value, a table, or an array of tables, of which the
last is the one that is added to. -/
inductive Node
  | value (value : Toml)
  | table (origin : Origin) (entries : List (String × Node))
  | tables (earlier : List Toml) (last : List (String × Node))

instance : Inhabited Node := ⟨.table .defined []⟩

/-- The entries of a table under construction. -/
abbrev Entries := List (String × Node)

mutual

/-- The finished value of a node. -/
def Node.finish : Node → Toml
  | .value value => value
  | .table _ entries => .table (finishEntries entries)
  | .tables earlier last => .arr (earlier ++ [.table (finishEntries last)])

/-- The finished values of entries. -/
def finishEntries : List (String × Node) → List (String × Toml)
  | [] => []
  | (name, node) :: rest => (name, node.finish) :: finishEntries rest

end

/-- Replaces the node with a name, or adds it behind the others. -/
def replaceEntry (name : String) (node : Node) : Entries → Entries
  | [] => [(name, node)]
  | (other, old) :: rest =>
    if other = name then (name, node) :: rest else (other, old) :: replaceEntry name node rest

/-- Changes the entries of the table with a name; `create` is the origin of a table that has to be
made, and `admits` says to which tables may be added. -/
def changeTable (create : Origin) (admits : Origin → Bool) (name : String)
    (change : Origin → Entries → Option Entries) (entries : Entries) : Option Entries :=
  match Members.find? entries name with
  | none => (change create []).map fun inner => replaceEntry name (.table create inner) entries
  | some (.value _) => none
  | some (.tables earlier last) =>
    (change .defined last).map fun inner => replaceEntry name (.tables earlier inner) entries
  | some (.table origin old) =>
    if admits origin then
      (change origin old).map fun inner => replaceEntry name (.table origin inner) entries
    else none

/-- Changes the entries of the table at the end of a path of a header. -/
def alongHeader (change : Entries → Option Entries) : List String → Entries → Option Entries
  | [], entries => change entries
  | name :: path, entries =>
    changeTable .implied (fun _ => true) name (fun _ inner => alongHeader change path inner) entries

/-- Adds a value under a dotted key. Every table on its way must have been made by dotted keys or be
implied, the last one made by dotted keys. -/
def insertDotted (value : Toml) (key : String) :
    List String → Origin → Entries → Option Entries
  | [], _, entries =>
    match Members.find? entries key with
    | none => some (entries ++ [(key, .value value)])
    | some _ => none
  | name :: path, _, entries =>
    changeTable .dotted (· ≠ .defined) name
      (fun origin inner =>
        if path.isEmpty && origin ≠ .dotted then none
        else insertDotted value key path origin inner) entries

/-- Gives a table its header: a new table, or one that was only implied so far. -/
def defineTable (name : String) (entries : Entries) : Option Entries :=
  match Members.find? entries name with
  | none => some (entries ++ [(name, .table .defined [])])
  | some (.table .implied inner) => some (replaceEntry name (.table .defined inner) entries)
  | some _ => none

/-- Adds a table to an array of tables. -/
def appendTable (name : String) (entries : Entries) : Option Entries :=
  match Members.find? entries name with
  | none => some (entries ++ [(name, .tables [] [])])
  | some (.tables earlier last) =>
    some (replaceEntry name (.tables (earlier ++ [.table (finishEntries last)]) []) entries)
  | some _ => none

/-- A document under construction: its entries, and the path of the header that was read last. -/
structure Document where
  entries : Entries := []
  current : List String := []

namespace Document

/-- Adds an entry below the last header. The key is a path and a last part. -/
def insert? (d : Document) (path : List String) (key : String) (value : Toml) : Option Document :=
  (alongHeader (insertDotted value key path .defined) d.current d.entries).map fun entries =>
    { d with entries }

/-- Reads a header, of a table or of one more table of an array. -/
def header? (d : Document) (isArray : Bool) (path : List String) (key : String) : Option Document :=
  let change := if isArray then appendTable key else defineTable key
  (alongHeader change path d.entries).map fun entries =>
    { entries, current := path ++ [key] }

/-- The finished entries. -/
def finish (d : Document) : List (String × Toml) := finishEntries d.entries

end Document

/-- The value of an inline table from its entries in order. -/
def inlineTable? (pairs : List (List String × String × Toml)) : Option Toml :=
  (pairs.foldlM (fun entries (path, key, value) => insertDotted value key path .defined entries)
    ([] : Entries)).map fun entries => .table (finishEntries entries)

end BenchQueue.Toml
