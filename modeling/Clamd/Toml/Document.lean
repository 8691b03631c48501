import Clamd.Toml.Value

/-!
# TOML documents

Reads a whole document, line by line. The lines behind a header define names in the table that the
header names; this table is put into the document when the next header, or the end, is reached. So a
table that was only implied before moves behind the others when a header names it.

* `Document.parse` gives the names of the outermost table in their order, or nothing if the text is
  not a document.
-/

namespace Clamd.Toml

/-- A document that is being read. -/
structure Document where
  /-- What the headers so far have put together. -/
  root : Table := ⟨.declared, []⟩
  /-- The path of the table that is being filled; none for the outermost one. -/
  path : Option (List String × String) := none
  /-- Whether the table is one of several with its name. -/
  repeated : Bool := false
  /-- The table that is being filled. -/
  current : Table := ⟨.declared, []⟩

namespace Document

/-- Puts the table that is being filled into its place. -/
def settle (d : Document) : Option Table :=
  match d.path with
  | none => some d.current
  | some (parents, name) =>
    Table.within false
      (fun parent =>
        match parent.entries.get? name with
        | some (.tables each) =>
          if d.repeated then
            some { parent with
              entries := parent.entries.replace name (.tables (d.current.entries :: each)) }
          else none
        | some _ => none
        | none =>
          some { parent with
            entries := parent.entries ++ [(name, .table d.current.form d.current.entries)] })
      parents d.root

/-- Begins the table that a header names. A table of that name may only be there because it was
implied; it is taken out to be filled. -/
def beginTable (d : Document) (parents : List String) (name : String) : Option Document := do
  let root ← d.settle
  let root ← Table.within false
    (fun parent =>
      match parent.entries.get? name with
      | none => some parent
      | some (.table .implied _) => some parent
      | some _ => none)
    parents root
  let kept := kept parents name root
  let root ← Table.within false
    (fun parent => some { parent with entries := parent.entries.erase name }) parents root
  return { root, path := some (parents, name), current := ⟨.declared, kept⟩ }
where
  /-- What the table at the end of the path already holds. -/
  kept : List String → String → Table → Entries
    | [], name, t =>
      match t.entries.get? name with
      | some (.table _ entries) => entries
      | _ => []
    | first :: path, name, t =>
      match t.entries.get? first with
      | some (.table form entries) => kept path name ⟨form, entries⟩
      | some (.tables each) => kept path name ⟨.declared, each.head?.getD []⟩
      | _ => []

/-- Begins one more of the tables with the name of a header in double brackets. -/
def beginRepeated (d : Document) (parents : List String) (name : String) : Option Document := do
  let root ← d.settle
  let root ← Table.within false
    (fun parent =>
      match parent.entries.get? name with
      | none => some { parent with entries := parent.entries ++ [(name, .tables [])] }
      | some (.tables _) => some parent
      | some _ => none)
    parents root
  return { root, path := some (parents, name), repeated := true }

/-- Reads the header whose opening bracket has been read. -/
def header (d : Document) (cs : List Char) : Option (Document × List Char) :=
  match cs with
  | '[' :: cs => do
    let ((parents, name), rest) ← key? cs
    let rest ← skipChar? ']' rest
    let rest ← skipChar? ']' rest
    return (← d.beginRepeated parents name, ← endLine rest)
  | cs => do
    let ((parents, name), rest) ← key? cs
    let rest ← skipChar? ']' rest
    return (← d.beginTable parents name, ← endLine rest)

/-- Reads a line that defines a name. -/
def definition (fuel : Nat) (d : Document) (cs : List Char) : Option (Document × List Char) := do
  let ((path, name), rest) ← key? cs
  let rest ← skipChar? '=' rest
  let (item, rest) ← value? fuel (depthLimit - 1) (skipSpaces rest)
  let rest ← endLine rest
  return ({ d with current := ← d.current.defineAt path name item }, rest)

/-- Reads the lines of a document. -/
def readLines (fuel : Nat) (d : Document) (cs : List Char) : Option Document :=
  match fuel with
  | 0 => none
  | fuel + 1 =>
    match skipSpaces cs with
    | [] => some d
    | '\n' :: rest => readLines fuel d rest
    | '#' :: rest => (endLine ('#' :: rest)).bind (readLines fuel d)
    | '[' :: rest => (d.header rest).bind fun (d, rest) => readLines fuel d rest
    | cs => (definition fuel d cs).bind fun (d, rest) => readLines fuel d rest

/-- The text without the byte order mark that it may begin with. -/
def withoutMark : List Char → List Char
  | '\uFEFF' :: cs => cs
  | cs => cs

/-- The names that a document defines in its outermost table. -/
def parse (text : String) : Option Entries := do
  let cs := unifyLines (withoutMark text.toList)
  let d ← readLines (cs.length + 1) {} cs
  return (← d.settle).entries

end Document

end Clamd.Toml
