import EvmClient.Text.Blank
import EvmClient.Text.Decimal

/-
Points in time as dated text, in universal time.

   A date is one of the Gregorian calendar, with a year of at most six digits; a time of day has
   nanoseconds, and those beyond a whole second are in the leap second behind the second. A clock has leap
   seconds behind the last second of a minute only; a time that somebody makes may have one behind any
   second. Writing gives `2024-05-06T07:08:09.5Z` with as many groups of three fraction digits as are
   needed, and a leap second as the next second, so that behind the last one stands second 60. Reading is
   more lenient: one digit per number is enough, blanks may stand in front of numbers and marks, the `T`
   may be a blank, and a distance to universal time is taken off. -/
namespace EvmClient

/-! ## Dates -/

namespace Date

def isLeap (year : Int) : Bool := year % 4 == 0 && (year % 100 != 0 || year % 400 == 0)

/-- The days of a month, counted from 1. -/
def daysIn (year : Int) (month : Nat) : Nat :=
  if month = 2 then (if isLeap year then 29 else 28)
  else if month = 4 ∨ month = 6 ∨ month = 9 ∨ month = 11 then 30
  else 31

/-- The years that a date can have. -/
def minYear : Int := -262143
def maxYear : Int := 262142

/-- A day that the calendar has. -/
abbrev Valid (year : Int) (month day : Nat) : Prop :=
  (minYear ≤ year ∧ year ≤ maxYear) ∧ (1 ≤ month ∧ month ≤ 12) ∧ 1 ≤ day ∧ day ≤ daysIn year month

end Date

structure Date where
  year : Int
  month : Nat
  day : Nat
  valid : Date.Valid year month day
deriving DecidableEq

namespace Date

def of? (year : Int) (month day : Nat) : Option Date :=
  if h : Valid year month day then some ⟨year, month, day, h⟩ else none

theorem of?_self (t : Date) : of? t.year t.month t.day = some t := by
  rw [of?, dif_pos t.valid]

def next? (t : Date) : Option Date :=
  if t.day < daysIn t.year t.month then of? t.year t.month (t.day + 1)
  else if t.month < 12 then of? t.year (t.month + 1) 1
  else of? (t.year + 1) 1 1

def previous? (t : Date) : Option Date :=
  if 1 < t.day then of? t.year t.month (t.day - 1)
  else if 1 < t.month then of? t.year (t.month - 1) (daysIn t.year (t.month - 1))
  else of? (t.year - 1) 12 31

end Date

/-! ## Times -/

namespace Timestamp

abbrev Valid (hour minute second nano : Nat) : Prop := hour < 24 ∧ minute < 60 ∧ second < 60 ∧ nano < 2000000000

end Timestamp

structure Timestamp where
  date : Date
  hour : Nat
  minute : Nat
  second : Nat
  /-- From a billion on they are those of the leap second behind the second. -/
  nano : Nat
  valid : Timestamp.Valid hour minute second nano
deriving DecidableEq

namespace Timestamp

def of? (date : Date) (hour minute second nano : Nat) : Option Timestamp :=
  if h : Valid hour minute second nano then some ⟨date, hour, minute, second, nano, h⟩ else none

theorem of?_self (t : Timestamp) : of? t.date t.hour t.minute t.second t.nano = some t := by
  rw [of?, dif_pos t.valid]

instance : Inhabited Timestamp :=
  ⟨⟨⟨1970, 1, 1, by decide⟩, 0, 0, 0, 0, by decide⟩⟩

/-- The same time in a place whose clocks differ by the given minutes, which are fewer than a day's. -/
def shift? (t : Timestamp) (minutes : Int) : Option Timestamp :=
  let total : Int := (t.hour * 60 + t.minute : Nat) + minutes
  let place (date : Date) (m : Nat) := of? date (m / 60) (m % 60) t.second t.nano
  if total < 0 then t.date.previous?.bind fun d => place d (total + 1440).toNat
  else if 1440 ≤ total then t.date.next?.bind fun d => place d (total - 1440).toNat
  else place t.date total.toNat

/-! ## Writing -/

/-- The digits of a number with zeros in front up to the width. -/
def padded (width n : Nat) : List Char :=
  let digits := Decimal.digits n
  List.replicate (width - digits.length) '0' ++ digits

/-- Years of up to four digits stand without a sign. -/
def yearChars (year : Int) : List Char :=
  if 0 ≤ year ∧ year ≤ 9999 then padded 4 year.toNat
  else (if year < 0 then '-' else '+') :: padded 4 year.natAbs

def fractionChars (nano : Nat) : List Char :=
  if nano = 0 then []
  else if nano % 1000000 = 0 then '.' :: padded 3 (nano / 1000000)
  else if nano % 1000 = 0 then '.' :: padded 6 (nano / 1000)
  else '.' :: padded 9 nano

/-- The second that is written, and the nanoseconds behind it: a leap second is written as the next second. -/
def written (t : Timestamp) : Nat × Nat :=
  if t.nano < 1000000000 then (t.second, t.nano) else (t.second + 1, t.nano - 1000000000)

def chars (t : Timestamp) : List Char :=
  yearChars t.date.year ++ '-' :: padded 2 t.date.month ++ '-' :: padded 2 t.date.day ++ 'T' :: padded 2 t.hour ++
    ':' :: padded 2 t.minute ++ ':' :: padded 2 t.written.1 ++ fractionChars t.written.2 ++ ['Z']

def text (t : Timestamp) : String := String.ofList t.chars

/-! ## Reading -/

/-- Between one and `max` digits at the start: their number, and the rest. -/
def digits? (max : Nat) (cs : List Char) : Option (Nat × List Char) :=
  let ds := (cs.take max).takeWhile Char.isDigit
  if ds = [] then none else some (Decimal.value ds, cs.drop ds.length)

def number? (max : Nat) (cs : List Char) : Option (Nat × List Char) := digits? max (Text.trimStart cs)

/-- With a sign a year may have any number of digits, without one at most four. -/
def year? (cs : List Char) : Option (Int × List Char) :=
  match Text.trimStart cs with
  | '-' :: rest => (digits? rest.length rest).map fun (n, rest) => (-(n : Int), rest)
  | '+' :: rest => (digits? rest.length rest).map fun (n, rest) => ((n : Int), rest)
  | cs => (digits? 4 cs).map fun (n, rest) => ((n : Int), rest)

def mark? (c : Char) (cs : List Char) : Option (List Char) :=
  match Text.trimStart cs with
  | d :: rest => if d = c then some rest else none
  | [] => none

/-- What stands between the date and the time. -/
def separator? : List Char → Option (List Char)
  | 'T' :: rest => some rest
  | 't' :: rest => some rest
  | ' ' :: rest => some rest
  | _ => none

/-- The nanoseconds of a fraction, of which nine digits count. -/
def fraction? (cs : List Char) : Option (Nat × List Char) :=
  match cs with
  | '.' :: rest =>
    let ds := rest.takeWhile Char.isDigit
    if ds = [] then none
    else some (Decimal.value ((ds ++ List.replicate 9 '0').take 9), rest.drop ds.length)
  | cs => some (0, cs)

def twoDigits? : List Char → Option (Nat × List Char)
  | a :: b :: rest => if a.isDigit ∧ b.isDigit then some (Decimal.value [a, b], rest) else none
  | _ => none

/-- Hours and minutes of a distance to universal time; colons and blanks may stand between them. -/
def distance? (cs : List Char) : Option (Nat × List Char) := do
  let (hours, rest) ← twoDigits? cs
  let (minutes, rest) ← twoDigits? (rest.dropWhile fun c => c == ':' || Text.isBlank c)
  if minutes < 60 ∧ hours < 24 then some (hours * 60 + minutes, rest) else none

/-- How many minutes the clocks of the place are ahead of universal time. -/
def zone? (cs : List Char) : Option (Int × List Char) :=
  match cs with
  | 'Z' :: rest => some (0, rest)
  | 'z' :: rest => some (0, rest)
  | '+' :: rest => (distance? rest).map fun (m, rest) => ((m : Int), rest)
  | '-' :: rest => (distance? rest).map fun (m, rest) => (-(m : Int), rest)
  | '−' :: rest => (distance? rest).map fun (m, rest) => (-(m : Int), rest)
  | u :: t :: c :: rest =>
    if [u, t, c].map Char.toUpper = ['U', 'T', 'C'] then some (0, rest) else none
  | _ => none

/-- The second and the nanoseconds that a written second and its fraction say: second 60 is the leap second behind
second 59. -/
def unwritten? (second nano : Nat) : Option (Nat × Nat) :=
  if second < 60 then some (second, nano)
  else if second = 60 then some (59, nano + 1000000000)
  else none

def ofChars? (cs : List Char) : Option Timestamp := do
  let (year, cs) ← year? cs
  let (month, cs) ← (mark? '-' cs).bind (number? 2)
  let (day, cs) ← (mark? '-' cs).bind (number? 2)
  let (hour, cs) ← (separator? cs).bind (number? 2)
  let (minute, cs) ← (mark? ':' cs).bind (number? 2)
  let (second, cs) ← (mark? ':' cs).bind (number? 2)
  let (nano, cs) ← fraction? cs
  let (ahead, cs) ← zone? (Text.trimStart cs)
  if Text.trimStart cs ≠ [] then none
  else
    let date ← Date.of? year month day
    let (second, nano) ← unwritten? second nano
    let time ← of? date hour minute second nano
    time.shift? (-ahead)

def ofText? (s : String) : Option Timestamp := ofChars? s.toList

end Timestamp
end EvmClient
