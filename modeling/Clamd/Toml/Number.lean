import Clamd.Toml.Item
import Clamd.Toml.Scan
import Clamd.Toml.Text
import Clamd.Word

/-!
# Numbers and moments in TOML text

Whole numbers in four bases, which have to fit 64 bits with a sign; floating-point numbers; and
dates, times of day and both together, of which only the validity matters here.
-/

namespace Clamd.Toml

/-- What looking for a form at the front of a text finds. -/
inductive Reading (α : Type) where
  /-- The text does not begin in this form. -/
  | absent
  /-- The text begins in this form, but breaks its rules. -/
  | broken
  /-- The text begins with this form of `value`; `rest` follows. -/
  | read (value : α) (rest : List Char)

/-- The digits of a run in which single underscores may stand between digits, with the text behind
the run. An underscore at the end of the run is left in the text. -/
def digitRun (isDigit : Char → Bool) : List Char → List Char × List Char
  | [] => ([], [])
  | c :: rest =>
    if isDigit c then
      let (digits, rest) := digitRun isDigit rest
      (c :: digits, rest)
    else if c == '_' && rest.head?.any isDigit then digitRun isDigit rest
    else ([], c :: rest)

/-- A run of digits that begins with a digit. -/
def digits? (isDigit : Char → Bool) (cs : List Char) : Option (List Char × List Char) :=
  if cs.head?.any isDigit then some (digitRun isDigit cs) else none

/-- The number whose digits to `base` these are. -/
def ofDigits (base : Nat) (digits : List Char) : Nat :=
  digits.foldl (fun n c => n * base + (hexDigit? c).getD 0) 0

/-- The sign of a number, with the text behind it. -/
def sign : List Char → Bool × List Char
  | '-' :: cs => (true, cs)
  | '+' :: cs => (false, cs)
  | cs => (false, cs)

/-- A decimal whole number with its sign: a zero alone, or digits that do not begin with zero. -/
def decimal? (cs : List Char) : Option ((Bool × List Char) × List Char) :=
  let (negative, rest) := sign cs
  match rest with
  | '0' :: rest => some ((negative, ['0']), rest)
  | rest => (digits? isDigit rest).map fun (digits, rest) => ((negative, digits), rest)

/-- The whole number, if it fits 64 bits with a sign. -/
def integerItem? (negative : Bool) (n : Nat) : Option Item :=
  if negative then if n ≤ Word.end63 then some (.integer (-(n : Int))) else none
  else if n < Word.end63 then some (.integer n) else none

/-- Reads a whole number to `base`, behind its mark. -/
def based? (base : Nat) (isDigit : Char → Bool) (cs : List Char) : Option (Item × List Char) := do
  let (digits, rest) ← digits? isDigit cs
  return (← integerItem? false (ofDigits base digits), rest)

/-- Reads a whole number. -/
def integer? : List Char → Option (Item × List Char)
  | '0' :: 'x' :: cs => based? 16 (fun c => (hexDigit? c).isSome) cs
  | '0' :: 'o' :: cs => based? 8 (fun c => '0' ≤ c && c ≤ '7') cs
  | '0' :: 'b' :: cs => based? 2 (fun c => c == '0' || c == '1') cs
  | cs => do
    let ((negative, digits), rest) ← decimal? cs
    return (← integerItem? negative (ofDigits 10 digits), rest)

/-- Reads the exponent of a floating-point number, if there is one. -/
def exponent : List Char → Reading Int
  | c :: cs =>
    if c == 'e' || c == 'E' then
      let (negative, rest) := sign cs
      match digits? isDigit rest with
      | none => .broken
      | some (digits, rest) =>
        let n : Int := ofDigits 10 digits
        .read (if negative then -n else n) rest
    else .absent
  | [] => .absent

/-- The nearest number to a decimal fraction, unless it is too great. A fraction too far below zero
counts as negative infinity. -/
def floatItem (negative : Bool) (digits : Nat) (exponent : Int) (rest : List Char) : Reading Item :=
  match Binary64.ofDecimal negative digits exponent with
  | .infinite false => .broken
  | x => .read (.float x) rest

/-- Reads a floating-point number: a decimal number with a fraction, an exponent or both. -/
def decimalFloat (cs : List Char) : Reading Item :=
  match decimal? cs with
  | none => .absent
  | some ((negative, whole), rest) =>
    match rest with
    | '.' :: rest =>
      match digits? isDigit rest with
      | none => .broken
      | some (part, rest) =>
        let digits := ofDigits 10 (whole ++ part)
        match exponent rest with
        | .absent => floatItem negative digits (-(part.length : Int)) rest
        | .broken => .broken
        | .read e rest => floatItem negative digits (e - part.length) rest
    | rest =>
      match exponent rest with
      | .absent => .absent
      | .broken => .broken
      | .read e rest => floatItem negative (ofDigits 10 whole) e rest

/-- Reads an infinity or a number that is none. -/
def specialFloat? (cs : List Char) : Option (Item × List Char) :=
  let (negative, rest) := sign cs
  match rest with
  | 'i' :: 'n' :: 'f' :: rest => some (.float (.infinite negative), rest)
  | 'n' :: 'a' :: 'n' :: rest => some (.float .nan, rest)
  | _ => none

/-- The number that exactly `n` digits give. -/
def fixedDigits? (n : Nat) (cs : List Char) : Option (Nat × List Char) :=
  let digits := cs.take n
  if digits.length = n && digits.all isDigit then some (ofDigits 10 digits, cs.drop n) else none

/-- The number that two digits give, between two bounds. -/
def twoDigits? (low high : Nat) (cs : List Char) : Option (Nat × List Char) := do
  let (n, rest) ← fixedDigits? 2 cs
  if low ≤ n && n ≤ high then some (n, rest) else none

/-- The text behind the character `c`. -/
def skipChar? (c : Char) : List Char → Option (List Char)
  | d :: cs => if c = d then some cs else none
  | [] => none

/-- The number of days in a month. -/
def daysInMonth (year month : Nat) : Nat :=
  if month = 2 then
    if year % 4 = 0 ∧ (year % 100 ≠ 0 ∨ year % 400 = 0) then 29 else 28
  else if month = 4 ∨ month = 6 ∨ month = 9 ∨ month = 11 then 30
  else 31

/-- Reads a date: four digits, two and two, with hyphens between. -/
def date (cs : List Char) : Reading Unit :=
  match fixedDigits? 4 cs with
  | some (year, '-' :: rest) =>
    let day := do
      let (month, rest) ← twoDigits? 1 12 rest
      twoDigits? 1 (daysInMonth year month) (← skipChar? '-' rest)
    match day with
    | some (_, rest) => .read () rest
    | none => .broken
  | _ => .absent

/-- The text behind a fraction of a second, if there is one. -/
def skipSecondFraction : List Char → Option (List Char)
  | '.' :: cs =>
    match cs with
    | c :: _ => if isDigit c then some (cs.dropWhile isDigit) else none
    | [] => none
  | cs => some cs

/-- Reads a time of day: two digits each for hour, minute and second, with colons between, and
digits for the fraction of a second behind a point. -/
def timeOfDay (cs : List Char) : Reading Unit :=
  match twoDigits? 0 23 cs with
  | some (_, ':' :: rest) =>
    let fraction := do
      let (_, rest) ← twoDigits? 0 59 rest
      let (_, rest) ← twoDigits? 0 60 (← skipChar? ':' rest)
      skipSecondFraction rest
    match fraction with
    | some rest => .read () rest
    | none => .broken
  | _ => .absent

/-- The text behind an offset from universal time, if there is one. -/
def skipOffset (cs : List Char) : Option (List Char) :=
  match cs with
  | 'Z' :: rest => some rest
  | 'z' :: rest => some rest
  | c :: rest =>
    if c == '+' || c == '-' then do
      let (_, rest) ← twoDigits? 0 23 rest
      let (_, rest) ← twoDigits? 0 59 (← skipChar? ':' rest)
      return rest
    else some cs
  | [] => some []

/-- Reads a date, a time of day, or both with `T` or a space between and an offset behind. -/
def moment (cs : List Char) : Reading Item :=
  match date cs with
  | .broken => .broken
  | .absent =>
    match timeOfDay cs with
    | .absent => .absent
    | .broken => .broken
    | .read () rest => .read .moment rest
  | .read () rest =>
    match rest with
    | c :: below =>
      if c == 'T' || c == 't' || c == ' ' then
        match timeOfDay below with
        | .absent => .read .moment rest
        | .broken => .broken
        | .read () rest =>
          match skipOffset rest with
          | some rest => .read .moment rest
          | none => .broken
      else .read .moment rest
    | [] => .read .moment rest

/-- Reads a number or a moment. A form that has begun is not given up for another. -/
def number? (cs : List Char) : Option (Item × List Char) :=
  match moment cs with
  | .broken => none
  | .read item rest => some (item, rest)
  | .absent =>
    match decimalFloat cs with
    | .broken => none
    | .read item rest => some (item, rest)
    | .absent =>
      match specialFloat? cs with
      | some found => some found
      | none => integer? cs

end Clamd.Toml
