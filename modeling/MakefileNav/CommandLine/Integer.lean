/-
Module: MakefileNav.CommandLine.Integer
Purpose: Signed integers of 64 bits in decimal notation.
Main exports:
  Integer.Fault, Integer.parse
-/
import MakefileNav.Text.Basic

namespace MakefileNav

namespace Integer

/-- Why a text is not an integer of 64 bits. -/
inductive Fault where
  | empty
  | invalidDigit
  | tooLarge
  | tooSmall
deriving Repr, DecidableEq

/-- The fault in words. -/
def Fault.message : Fault → Text
  | .empty => "cannot parse integer from empty string"
  | .invalidDigit => "invalid digit found in string"
  | .tooLarge => "number too large to fit in target type"
  | .tooSmall => "number too small to fit in target type"

/-- Greatest magnitude of an integer with the given sign. -/
def bound (negative : Bool) : Nat :=
  if negative then 9223372036854775808 else 9223372036854775807

/-- Magnitude that digits stand for.  They are read from left to right, and the first
one that is no digit or goes beyond the bound decides about the fault. -/
def magnitude (negative : Bool) (digits : Text) : Except Fault Nat :=
  digits.foldlM
    (fun value c =>
      if !c.isDigit then .error .invalidDigit
      else
        let next := value * 10 + (c.toNat - '0'.toNat)
        if bound negative < next then .error (if negative then .tooSmall else .tooLarge)
        else .ok next)
    0

/-- Sign and digits of a number.  A sign is optional, and one that stands alone is
read as a digit. -/
def splitSign : Text → Bool × Text
  | '+' :: c :: rest => (false, c :: rest)
  | '-' :: c :: rest => (true, c :: rest)
  | text => (false, text)

/-- The integer that a text stands for. -/
def parse (text : Text) : Except Fault Int :=
  if text.isEmpty then .error .empty
  else
    let (negative, digits) := splitSign text
    (magnitude negative digits).map fun n => if negative then -(n : Int) else n

/-- Decimal notation of an integer. -/
def toText (value : Int) : Text :=
  if value < 0 then '-' :: Text.ofNat value.natAbs else Text.ofNat value.natAbs

end Integer

end MakefileNav
