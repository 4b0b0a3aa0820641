/-!
TOML values and tables. A table remembers how it came about, since that decides what may still be
added to it: a table that a header names is complete with its section, one that dotted keys make
grows by dotted keys only, and one that is only on the way to a header may get a header of its own.
-/
namespace ScriptHost

/-- How a table came about. -/
inductive TableOrigin where
  /-- Written between braces. -/
  | braces
  /-- Named by a header, or the table of the whole document. -/
  | header
  /-- On the way to a table that a header names. -/
  | passage
  /-- On the way to a dotted key. -/
  | dotted
  deriving DecidableEq, Repr, Inhabited

/-- Whether a path that makes tables of one origin may lead through a table of another. -/
def TableOrigin.letsThrough : TableOrigin → (made : TableOrigin) → Bool
  | .braces, _ => false
  | .header, made => made != TableOrigin.dotted
  | .passage, _ | .dotted, _ => true

/-- A TOML value. Nobody asks for the value of a float or a date, so those are only told apart. -/
inductive Toml where
  | string (text : String)
  | integer (number : Int)
  | float
  | boolean (truth : Bool)
  | dateTime
  | array (items : List Toml)
  | table (origin : TableOrigin) (entries : List (String × Toml))
  /-- Tables under one repeated header: the earlier ones and the entries of the last. -/
  | tables (earlier : List Toml) (last : List (String × Toml))
  deriving Inhabited

namespace Toml

/-- The keys of a table with their values, each key once. -/
abbrev Entries := List (String × Toml)

namespace Entries

/-- The value of a key. -/
def find? (entries : Entries) (key : String) : Option Toml := List.lookup key entries

/-- Give a value to a key. -/
def set (key : String) (value : Toml) : Entries → Entries
  | [] => [(key, value)]
  | entry :: rest => if entry.1 == key then (key, value) :: rest else entry :: set key value rest

end Entries

/-- A table that is being filled. -/
structure Table where
  origin : TableOrigin
  entries : Entries
  deriving Inhabited

/-- The table of a document before its first line. -/
def Table.empty : Table := ⟨.header, []⟩

/-- The table as a value. -/
def Table.toToml (table : Table) : Toml := .table table.origin table.entries

/-- The table with a value under a key. -/
def Table.set (table : Table) (key : String) (value : Toml) : Table :=
  { table with entries := Entries.set key value table.entries }

/-- Change the table at the end of a path. Tables that are not there yet are made on the way;
through a repeated header the path leads to the last table. -/
def Table.change? (made : TableOrigin) (change : Table → Option Table) :
    (path : List String) → Table → Option Table
  | [], here => change here
  | key :: path, here =>
    match Entries.find? here.entries key with
    | none => (change? made change path ⟨made, []⟩).map fun inner => here.set key inner.toToml
    | some (.tables earlier last) =>
      (change? made change path ⟨.header, last⟩).map fun inner =>
        here.set key (.tables earlier inner.entries)
    | some (.table origin entries) =>
      if origin.letsThrough made then
        (change? made change path ⟨origin, entries⟩).map fun inner => here.set key inner.toToml
      else none
    | some _ => none

/-- A dotted key: its last part and the parts in front of it. -/
structure Key where
  path : List String
  last : String
  deriving DecidableEq, Repr, Inhabited

/-- Give a value to a key. A key of one part belongs to a table that has a header or braces, any
other to one that dotted keys make; no key is given twice. -/
def Table.assign? (here : Table) (key : Key) (value : Toml) : Option Table :=
  here.change? .dotted (fun inner =>
    if (inner.origin == .dotted) == key.path.isEmpty then none
    else if (Entries.find? inner.entries key.last).isSome then none
    else some (inner.set key.last value)) key.path

/-- Give a header to the table under a key; it has none so far. -/
def Table.openHeader? (here : Table) (key : String) : Option Table :=
  match Entries.find? here.entries key with
  | none => some (here.set key (.table .header []))
  | some (.table .passage entries) => some (here.set key (.table .header entries))
  | some _ => none

/-- Add a table to those under a repeated header. -/
def Table.addItem? (here : Table) (key : String) : Option Table :=
  match Entries.find? here.entries key with
  | none => some (here.set key (.tables [] []))
  | some (.tables earlier last) =>
    some (here.set key (.tables (earlier ++ [.table .header last]) []))
  | some _ => none

end Toml

end ScriptHost
