/-!
# Calendar

Dates of the Gregorian calendar in the years 1 to 9999 and their numbers, counted from 1 on the
first of January of the year 1. Weeks begin on Monday, and the first week of a year is the one with
its first Thursday.
-/

namespace NodeRelief

namespace Calendar

def isLeap (y : Nat) : Bool := y % 4 == 0 && (y % 100 != 0 || y % 400 == 0)

def monthLengths (y : Nat) : List Nat :=
  [31, if isLeap y then 29 else 28, 31, 30, 31, 30, 31, 31, 30, 31, 30, 31]

def daysInMonth (y m : Nat) : Nat := (monthLengths y).getD (m - 1) 0

/-- Days in the years 1 to `y`. -/
def daysThrough (y : Nat) : Nat := 365 * y + y / 4 - y / 100 + y / 400

/-- The days in months of the given lengths. -/
def total (lengths : List Nat) : Nat := lengths.foldr (· + ·) 0

def daysBeforeMonth (y m : Nat) : Nat := total ((monthLengths y).take (m - 1))

def mostYear : Nat := 9999

end Calendar

open Calendar

structure Date where
  year : Nat
  month : Nat
  day : Nat
  year_pos : 1 ≤ year
  year_le : year ≤ mostYear
  month_pos : 1 ≤ month
  month_le : month ≤ 12
  day_pos : 1 ≤ day
  day_le : day ≤ daysInMonth year month
deriving DecidableEq, Repr

namespace Date

def make? (y m d : Nat) : Option Date :=
  if h : 1 ≤ y ∧ y ≤ mostYear ∧ 1 ≤ m ∧ m ≤ 12 ∧ 1 ≤ d ∧ d ≤ daysInMonth y m then
    some ⟨y, m, d, h.1, h.2.1, h.2.2.1, h.2.2.2.1, h.2.2.2.2.1, h.2.2.2.2.2⟩
  else none

def number (date : Date) : Nat :=
  daysThrough (date.year - 1) + daysBeforeMonth date.year date.month + date.day

/-- The year with day number `n` in it. -/
def yearOfNumber (n : Nat) : Nat :=
  let y := 400 * (n - 1) / 146097 + 1
  if daysThrough y < n then y + 1 else if n ≤ daysThrough (y - 1) then y - 1 else y

/-- Month and day of the `n`-th day of months of the given lengths, counted on from `m`. -/
def monthDay (m n : Nat) : List Nat → Nat × Nat
  | [] => (m, n)
  | length :: rest => if n ≤ length then (m, n) else monthDay (m + 1) (n - length) rest

/-- Year, month and day of a day number. -/
def partsOfNumber (n : Nat) : Nat × Nat × Nat :=
  let y := yearOfNumber n
  let (m, d) := monthDay 1 (n - daysThrough (y - 1)) (monthLengths y)
  (y, m, d)

def ofNumber? (n : Nat) : Option Date :=
  let (y, m, d) := partsOfNumber n
  make? y m d

/-- Day of the week of a day number, Monday being 0. -/
def weekday (n : Nat) : Nat := (n + 6) % 7

/-- The day number of the Monday of the first week of a year; it may lie in the year before. -/
def firstMonday (y : Nat) : Int :=
  let first := daysThrough (y - 1) + 1
  let w := weekday first
  if w ≤ 3 then (first : Int) - w else (first : Int) - w + 7

/-- Whether a year has 53 weeks: its first day is a Thursday, or a Wednesday and it is a leap year. -/
def hasLongLastWeek (y : Nat) : Bool :=
  let w := weekday (daysThrough (y - 1) + 1)
  w == 3 || (w == 2 && isLeap y)

/-- The date of a day, counted from 1 for Monday, of a week of a year. -/
def ofWeek? (y week day : Nat) : Option Date :=
  if 1 ≤ y ∧ y ≤ mostYear ∧ 1 ≤ week ∧ (week ≤ 52 ∨ week = 53 ∧ hasLongLastWeek y) ∧
      1 ≤ day ∧ day ≤ 7 then
    let n := firstMonday y + 7 * (week - 1 : Nat) + (day - 1 : Nat)
    if 1 ≤ n then ofNumber? n.toNat else none
  else none

end Date

end NodeRelief
