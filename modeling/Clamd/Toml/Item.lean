import Clamd.Decimal.Binary64

/-!
# The contents of a TOML document

A document is a table: names with items, in the order in which they were defined. A table remembers
how it came to be, since that decides whether a later line may add to it.

* `Table.within` changes the table at the end of a path and makes the tables on the way that are
  missing.
-/

namespace Clamd.Toml

/-- How a table came to be. -/
inductive Form where
  /-- It was named by a header. -/
  | declared
  /-- It lies on the way to a table that was named by a header. -/
  | implied
  /-- It lies on the way of a dotted key. -/
  | dotted
  deriving DecidableEq, Repr

/-- What a name stands for. -/
inductive Item where
  | string (text : String)
  | integer (n : Int)
  | float (x : Binary64)
  | boolean (b : Bool)
  /-- A date, a time of day or both. -/
  | moment
  | array (items : List Item)
  /-- A table written between braces, or one on the way of a dotted key inside such a table. -/
  | inline (dotted : Bool) (entries : List (String × Item))
  | table (form : Form) (entries : List (String × Item))
  /-- Tables that were added one by one by headers in double brackets, the last one first. -/
  | tables (each : List (List (String × Item)))

namespace Item

/-- What kind of item it is, for messages. -/
def typeName : Item → String
  | string _ => "string"
  | integer _ => "integer"
  | float _ => "float"
  | boolean _ => "boolean"
  | moment => "datetime"
  | array _ => "array"
  | inline _ _ => "inline table"
  | table _ _ => "table"
  | tables _ => "array of tables"

end Item

/-- Names with items, in the order of their definition. -/
abbrev Entries := List (String × Item)

namespace Entries

/-- The item of a name. -/
def get? (entries : Entries) (name : String) : Option Item :=
  (entries.find? (·.1 == name)).map (·.2)

/-- Replaces the item of a name that is defined. -/
def replace (entries : Entries) (name : String) (item : Item) : Entries :=
  entries.map fun e => if e.1 = name then (name, item) else e

/-- The entries without a name. -/
def erase (entries : Entries) (name : String) : Entries :=
  entries.filter (·.1 != name)

/-- Defines a new name; a name that is defined already is refused. -/
def define (entries : Entries) (name : String) (item : Item) : Option Entries :=
  if (entries.get? name).isSome then none else some (entries ++ [(name, item)])

end Entries

/-- A table with the way in which it came to be. -/
structure Table where
  /-- How the table came to be. -/
  form : Form
  /-- What it holds. -/
  entries : Entries

namespace Table

/-- Changes the table at the end of `path`, below `t`. Tables that are missing are made: on the way
of a dotted key (`dotted`) or of a header. A dotted key may not pass through a table that a header
has named, and nothing may pass through an item that is no table. -/
def within (dotted : Bool) (change : Table → Option Table) : List String → Table → Option Table
  | [], t => change t
  | name :: path, t =>
    match t.entries.get? name with
    | none => do
      let inner ← within dotted change path ⟨if dotted then .dotted else .implied, []⟩
      return { t with entries := t.entries ++ [(name, .table inner.form inner.entries)] }
    | some (.table form entries) =>
      if dotted && form == .declared then none
      else do
        let inner ← within dotted change path ⟨form, entries⟩
        return { t with entries := t.entries.replace name (.table inner.form inner.entries) }
    | some (.tables each) =>
      match each with
      | [] => none
      | last :: others => do
        let inner ← within dotted change path ⟨.declared, last⟩
        return { t with entries := t.entries.replace name (.tables (inner.entries :: others)) }
    | some _ => none

/-- Defines the last name of a dotted key in the table that it leads to. A key with dots may only
add to a table that dotted keys have made. -/
def defineAt (path : List String) (name : String) (item : Item) (t : Table) : Option Table :=
  within true
    (fun inner =>
      if (inner.form == .dotted) == path.isEmpty then none
      else do return { inner with entries := ← inner.entries.define name item })
    path t

end Table

namespace Entries

/-- Defines the last name of a dotted key in a table between braces. -/
def defineInline (entries : Entries) : List String → String → Item → Option Entries
  | [], name, item => entries.define name item
  | first :: path, name, item =>
    match entries.get? first with
    | none => do
      let inner ← defineInline [] path name item
      return entries ++ [(first, .inline true inner)]
    | some (.inline true inner) => do
      let inner ← defineInline inner path name item
      return entries.replace first (.inline true inner)
    | some _ => none

end Entries

end Clamd.Toml
