/-
A moment of the calendar, and its texts.

The year is written with at least four digits, a later year than 9999 with a
plus sign and an earlier one than 0 with a minus sign in front.
-/
import RecordSchema.Kind
import RecordSchema.Text.Numeral

namespace RecordSchema

namespace Calendar

/-- The first and the last year that moments are kept for. -/
def yearRange : Int × Int := (-262143, 262142)

def isLeapYear (year : Int) : Bool := year % 4 == 0 && (year % 100 != 0 || year % 400 == 0)

def daysInMonth (year : Int) (month : Nat) : Nat :=
  if month = 2 then if isLeapYear year then 29 else 28
  else if month = 4 ∨ month = 6 ∨ month = 9 ∨ month = 11 then 30
  else 31

/-- Is a day and a time of day that exist. -/
def Exists (year : Int) (month day hour minute second : Nat) : Prop :=
  (yearRange.1 ≤ year ∧ year ≤ yearRange.2) ∧ (1 ≤ month ∧ month ≤ 12)
    ∧ (1 ≤ day ∧ day ≤ daysInMonth year month) ∧ hour < 24 ∧ minute < 60 ∧ second < 60

instance (year : Int) (month day hour minute second : Nat) :
    Decidable (Exists year month day hour minute second) := by
  unfold Exists; infer_instance

end Calendar

structure DateTime where
  year : Int
  month : Nat
  day : Nat
  hour : Nat
  minute : Nat
  second : Nat
  inCalendar : Calendar.Exists year month day hour minute second
  deriving DecidableEq

namespace DateTime

def of? (year : Int) (month day hour minute second : Nat) : Option DateTime :=
  if h : Calendar.Exists year month day hour minute second then some ⟨year, month, day, hour, minute, second, h⟩
  else none

/-- A number with zeros in front of it up to a width. -/
def padded (width n : Nat) : String :=
  let digits := Text.decimal n
  String.ofList (List.replicate (width - digits.length) '0' ++ digits)

def yearText (year : Int) : String :=
  if year < 0 then "-" ++ padded 4 year.natAbs
  else if 9999 < year then "+" ++ padded 4 year.natAbs
  else padded 4 year.natAbs

def dateText (t : DateTime) : String := yearText t.year ++ "-" ++ padded 2 t.month ++ "-" ++ padded 2 t.day

def timeText (t : DateTime) : String := padded 2 t.hour ++ ":" ++ padded 2 t.minute ++ ":" ++ padded 2 t.second

/-- The part of the moment that a kind shows, all of it for a kind that is not temporal. -/
def textFor (t : DateTime) : Kind → String
  | .date => t.dateText
  | .time => t.timeText
  | _ => t.dateText ++ " " ++ t.timeText

end DateTime

end RecordSchema
