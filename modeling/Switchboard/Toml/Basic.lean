/-!
# Tables of a settings file

A settings file is a table of keys and values in the TOML format, as far as
settings can make use of it: truth values, integers, texts, arrays and tables.
Fractions, dates and arrays of tables, which no setting takes, are refused.

A table can be opened once by a header and filled by dotted keys; which of them
made it decides what may still be added to it.

## Main definitions

* `Toml.Item`, `Toml.Entries`: values and tables.
* `Toml.Entries.put?`: a value under a dotted key.
* `Toml.Entries.openTable?`: a table opened by a header.
-/

namespace Switchboard.Toml

/-- How a table came to be. -/
inductive Origin where
  /-- By a header of its own. -/
  | header
  /-- As a table around one that has a header. -/
  | around
  /-- By a dotted key. -/
  | dotted
  /-- As a value, to which nothing can be added. -/
  | inlined
deriving DecidableEq

inductive Item where
  | flag (value : Bool)
  | integer (value : Int)
  | text (value : String)
  | array (items : List Item)
  | table (origin : Origin) (entries : List (String × Item))

instance : Inhabited Item := ⟨.flag false⟩

/-- The entries of a table in the order in which they were made. -/
abbrev Entries := List (String × Item)

/-- Entries with the value under a key replaced. -/
def Entries.replace (key : String) (item : Item) (entries : Entries) : Entries :=
  entries.map fun entry => if entry.1 == key then (key, item) else entry

/-- Put a value under a dotted key.  Nothing may stand there yet, and the
tables on the way may not have headers of their own. -/
def Entries.put? (item : Item) : List String → Entries → Option Entries
  | [], _ => none
  | [key], entries =>
    match entries.lookup key with
    | none => some (entries ++ [(key, item)])
    | some _ => none
  | key :: path, entries =>
    match entries.lookup key with
    | none => (put? item path []).map fun inner => entries ++ [(key, .table .dotted inner)]
    | some (.table origin inner) =>
      if origin = .around ∨ origin = .dotted then
        (put? item path inner).map fun inner => entries.replace key (.table origin inner)
      else none
    | some _ => none

/-- Open a table by a header.  It may stand around tables that have headers
already, and be nothing else yet. -/
def Entries.openTable? : List String → Entries → Option Entries
  | [], _ => none
  | [key], entries =>
    match entries.lookup key with
    | none => some (entries ++ [(key, .table .header [])])
    | some (.table .around inner) => some (entries.replace key (.table .header inner))
    | some _ => none
  | key :: path, entries =>
    match entries.lookup key with
    | none => (openTable? path []).map fun inner => entries ++ [(key, .table .around inner)]
    | some (.table .inlined _) => none
    | some (.table origin inner) =>
      (openTable? path inner).map fun inner => entries.replace key (.table origin inner)
    | some _ => none

/-- Do something to the entries of the table at a path. -/
def Entries.within? (change : Entries → Option Entries) : List String → Entries → Option Entries
  | [], entries => change entries
  | key :: path, entries =>
    match entries.lookup key with
    | some (.table origin inner) =>
      (within? change path inner).map fun inner => entries.replace key (.table origin inner)
    | _ => none

end Switchboard.Toml
