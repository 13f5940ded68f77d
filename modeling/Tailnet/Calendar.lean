/-!
Days of the calendar and times on them. A time may know how far it is ahead of universal time;
without that it is told from one that does.
-/

namespace Tailnet

/-- A day of the calendar. -/
structure Date where
  year : Nat
  month : Nat
  day : Nat
deriving DecidableEq, Repr

namespace Date

def daysIn (year month : Nat) : Nat :=
  if month == 2 then
    if year % 4 == 0 && (year % 100 != 0 || year % 400 == 0) then 29 else 28
  else if [4, 6, 9, 11].contains month then 30
  else 31

/-- The number of a day, counted from the first day of the first year. -/
def ordinal (d : Date) : Nat :=
  let years := d.year - 1
  let months := (List.range (d.month - 1)).map fun month => daysIn d.year (month + 1)
  365 * years + years / 4 - years / 100 + years / 400 + months.foldl (· + ·) 0 + d.day

end Date

/-- A time on a day, to the millionth of a second. The offset from universal time is in minutes. -/
structure Moment where
  date : Date
  hour : Nat
  minute : Nat
  second : Nat
  microsecond : Nat
  offset : Option Int
deriving DecidableEq, Repr

namespace Moment

/-- The millionths of a second that have passed by a time, in universal time if that is known. -/
def elapsed (m : Moment) : Int :=
  (((m.date.ordinal * 24 + m.hour) * 60 + m.minute - m.offset.getD 0) * 60 + m.second) * 1000000 +
    m.microsecond

/-- Whether two times are the same, however far each is from universal time. -/
def same (a b : Moment) : Bool := a.offset.isSome == b.offset.isSome && a.elapsed == b.elapsed

end Moment

end Tailnet
