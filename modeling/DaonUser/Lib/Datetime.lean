import DaonUser.Lib.Numeral

/-!
# Moments in UTC

A `Datetime` is a date and a time of day at the offset zero; `instant` is its distance from the epoch in
microseconds and `isoformat` its text.
-/

namespace Lib

def daysInMonth (year month : Nat) : Nat :=
  if month = 2 then if year % 4 = 0 ∧ (year % 100 ≠ 0 ∨ year % 400 = 0) then 29 else 28
  else if month ∈ [4, 6, 9, 11] then 30
  else 31

structure Datetime where
  year : Nat
  month : Nat
  day : Nat
  hour : Nat
  minute : Nat
  second : Nat
  microsecond : Nat
  date : 1 ≤ year ∧ year ≤ 9999 ∧ 1 ≤ month ∧ month ≤ 12 ∧ 1 ≤ day ∧ day ≤ daysInMonth year month
  time : hour < 24 ∧ minute < 60 ∧ second < 60 ∧ microsecond < 1000000
  deriving DecidableEq

namespace Datetime

variable (d : Datetime)

def toordinal : Nat :=
  let years := d.year - 1
  years * 365 + years / 4 - years / 100 + years / 400 +
    ((List.range' 1 (d.month - 1)).map (daysInMonth d.year)).sum + d.day

def instant : Int :=
  (((d.toordinal : Int) - 719163) * 86400 + d.hour * 3600 + d.minute * 60 + d.second) * 1000000 +
    d.microsecond

/-- The characters of `isoformat` before the offset. -/
def isoChars : List Char :=
  Numeral.padded 4 d.year ++ '-' :: Numeral.padded 2 d.month ++ '-' :: Numeral.padded 2 d.day ++
    'T' :: Numeral.padded 2 d.hour ++ ':' :: Numeral.padded 2 d.minute ++
    ':' :: Numeral.padded 2 d.second ++
    if d.microsecond = 0 then [] else '.' :: Numeral.padded 6 d.microsecond

def isoformat : String := String.ofList (d.isoChars ++ "+00:00".toList)

end Datetime

end Lib
