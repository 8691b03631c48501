import Clamd.Toml.Number

/-!
# Values in TOML text

What may stand behind the `=` of a key. Arrays and tables between braces hold values themselves;
`room` is how much deeper they may be nested, and `fuel` bounds the number of their items: the
length of the text is enough.
-/

namespace Clamd.Toml

/-- The text behind one of the words `true` and `false`, with its value. -/
def boolean? : List Char → Option (Item × List Char)
  | 't' :: 'r' :: 'u' :: 'e' :: cs => some (.boolean true, cs)
  | 'f' :: 'a' :: 'l' :: 's' :: 'e' :: cs => some (.boolean false, cs)
  | _ => none

/-- Reads the items of an array, behind the opening bracket or a comma, up to the closing bracket. A
comma may stand behind the last item. -/
def arrayItems (value : List Char → Option (Item × List Char)) (fuel : Nat) (back : List Item)
    (cs : List Char) : Option (Item × List Char) :=
  match fuel with
  | 0 => none
  | fuel + 1 => do
    match ← skipGaps fuel cs with
    | ']' :: rest => return (.array back.reverse, rest)
    | cs => do
      let (item, rest) ← value cs
      match ← skipGaps fuel rest with
      | ',' :: rest => arrayItems value fuel (item :: back) rest
      | ']' :: rest => return (.array (item :: back).reverse, rest)
      | _ => none

/-- Reads the members of a table between braces, behind the opening brace or a comma, up to the
closing brace. -/
def tableMembers (value : List Char → Option (Item × List Char)) (fuel : Nat) (entries : Entries)
    (cs : List Char) : Option (Item × List Char) :=
  match fuel with
  | 0 => none
  | fuel + 1 => do
    let ((path, name), rest) ← key? cs
    let rest ← skipChar? '=' rest
    let (item, rest) ← value (skipSpaces rest)
    let entries ← entries.defineInline path name item
    match skipSpaces rest with
    | ',' :: rest => tableMembers value fuel entries rest
    | '}' :: rest => return (.inline false entries, rest)
    | _ => none

/-- Reads a value at the front of a text. -/
def value? (fuel room : Nat) (cs : List Char) : Option (Item × List Char) :=
  match cs with
  | [] => none
  | c :: rest =>
    if c == '"' || c == '\'' then (string? cs).map fun (s, rest) => (.string s, rest)
    else if c == '[' then
      match room with
      | 0 => none
      | room + 1 => arrayItems (value? fuel room) fuel [] rest
    else if c == '{' then
      match room with
      | 0 => none
      | room + 1 =>
        match skipSpaces rest with
        | '}' :: rest => some (.inline false [], rest)
        | _ => tableMembers (value? fuel room) fuel [] rest
    else if c == 't' || c == 'f' then boolean? cs
    else number? cs
termination_by room

end Clamd.Toml
