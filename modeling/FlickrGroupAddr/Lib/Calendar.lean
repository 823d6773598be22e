import Mathlib.Data.List.Basic

/-!
# Calendar text

Dates of the proleptic Gregorian calendar as fixed-width text: which year, month, day
and time of day a text spells, and when these exist.
-/

namespace Calendar

set_option autoImplicit false

/-- A date and a time of day. -/
structure Fields where
  year : Nat
  month : Nat
  day : Nat
  hour : Nat
  minute : Nat
  second : Nat
deriving DecidableEq

def isLeap (year : Nat) : Bool := year % 4 == 0 && (year % 100 != 0 || year % 400 == 0)

/-- The lengths of the months of a year, January first. -/
def monthLengths (year : Nat) : List Nat :=
  [31, if isLeap year then 29 else 28, 31, 30, 31, 30, 31, 31, 30, 31, 30, 31]

/-- The date is in the calendar and the time of day exists. -/
def Fields.Exists (f : Fields) : Prop :=
  1 ≤ f.month ∧ 1 ≤ f.day ∧ f.day ≤ (monthLengths f.year).getD (f.month - 1) 0 ∧
    f.hour ≤ 23 ∧ f.minute ≤ 59 ∧ f.second ≤ 59

instance (f : Fields) : Decidable f.Exists := inferInstanceAs (Decidable (_ ∧ _))

/-- The value of a string of decimal digits. -/
def digitsValue (digits : List Char) : Nat :=
  digits.foldl (fun value digit => value * 10 + (digit.toNat - '0'.toNat)) 0

/-- The text has the shape of the template, whose letter `d` stands for a digit. -/
def hasShape (template text : List Char) : Bool :=
  template.length == text.length &&
    (template.zip text).all fun pair =>
      if pair.1 = 'd' then pair.2.isDigit else pair.1 == pair.2

/-- `YYYY-MM-DDTHH:MM:SS`. -/
def shape : List Char := "dddd-dd-ddTdd:dd:dd".toList

/-- The fields that the first nineteen characters of a text spell. -/
def readFields (text : List Char) : Option Fields :=
  if hasShape shape (text.take 19) then
    some
      { year := digitsValue (text.take 4)
        month := digitsValue ((text.drop 5).take 2)
        day := digitsValue ((text.drop 8).take 2)
        hour := digitsValue ((text.drop 11).take 2)
        minute := digitsValue ((text.drop 14).take 2)
        second := digitsValue ((text.drop 17).take 2) }
  else none

end Calendar
