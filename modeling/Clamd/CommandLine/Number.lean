import Clamd.Word

/-!
# Whole numbers on the command line

A number is written in digits from 0 to 9, with a sign before them if the number may be negative,
and a plus sign in any case. It is read from the left, and the first thing that is wrong is
reported: a character that is no digit, or the digit with which the number leaves its range.

* `Number.addDigit` says what one character does.
-/

namespace Clamd.CommandLine

/-- Why a text is no number. -/
inductive NumberFault where
  | empty
  | invalidDigit
  | tooLarge
  | tooSmall
  deriving DecidableEq, Repr

/-- The text of such a fault. -/
def NumberFault.message : NumberFault → String
  | empty => "cannot parse integer from empty string"
  | invalidDigit => "invalid digit found in string"
  | tooLarge => "number too large to fit in target type"
  | tooSmall => "number too small to fit in target type"

namespace Number

/-- The value of a digit. -/
def digitValue (c : Char) : Nat := c.toNat - '0'.toNat

/-- The number `n` with one more digit, which may not take it above `top`; `beyond` is the fault of
a number that does. -/
def addDigit (top : Nat) (beyond : NumberFault) (n : Nat) (c : Char) : Except NumberFault Nat :=
  if c.isDigit then
    let m := n * 10 + digitValue c
    if m ≤ top then .ok m else .error beyond
  else .error .invalidDigit

/-- The number that digits denote. -/
def ofDigits (top : Nat) (beyond : NumberFault) (digits : List Char) : Except NumberFault Nat :=
  if digits.isEmpty then .error .invalidDigit else digits.foldlM (addDigit top beyond) 0

/-- A number of 64 bits without a sign. -/
def natural (text : String) : Except NumberFault Nat :=
  match text.toList with
  | [] => .error .empty
  | '+' :: digits => ofDigits (Word.end64 - 1) .tooLarge digits
  | digits => ofDigits (Word.end64 - 1) .tooLarge digits

/-- A number of 64 bits with a sign. -/
def signed (text : String) : Except NumberFault Int :=
  match text.toList with
  | [] => .error .empty
  | '+' :: digits => (ofDigits (Word.end63 - 1) .tooLarge digits).map Int.ofNat
  | '-' :: digits => (ofDigits Word.end63 .tooSmall digits).map fun n => -(n : Int)
  | digits => (ofDigits (Word.end63 - 1) .tooLarge digits).map Int.ofNat

end Number

end Clamd.CommandLine
