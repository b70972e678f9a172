import Scribe.Text.Numeral

/-!
# Dates and times

A date, a time of day, or both, and in that case perhaps the offset from universal time. Reading
accepts only days that exist, and a second that is inserted at the end of a minute. Fractions of a
second are kept to nine digits; writing leaves out their trailing zeros.
-/

namespace Scribe

namespace Toml

structure Date where
  year : Nat
  month : Nat
  day : Nat
deriving DecidableEq

structure Time where
  hour : Nat
  minute : Nat
  second : Nat
  nanosecond : Nat
deriving DecidableEq

/-- How far a clock is from universal time. -/
inductive Offset where
  | universal
  | minutes (n : Int)
deriving DecidableEq

inductive DateTime where
  | date (d : Date)
  | time (t : Time)
  | both (d : Date) (t : Time) (offset : Option Offset)
deriving DecidableEq

/-! ## Reading -/

/-- A number of exactly `count` digits, from `low` to `high`, and what follows it. -/
def digits? (count low high : Nat) (s : Text) : Option (Nat × Text) := do
  let n ← Text.natural? (s.take count)
  guard ((s.take count).length = count ∧ low ≤ n ∧ n ≤ high)
  return (n, s.drop count)

/-- What follows a character. -/
def after? (c : Char) : Text → Option Text
  | d :: s => if c = d then some s else none
  | [] => none

namespace Date

/-- Whether February has a day more. -/
def isLeap (year : Nat) : Bool := year % 4 = 0 && (year % 100 ≠ 0 || year % 400 = 0)

/-- The number of days of a month. -/
def daysIn (year month : Nat) : Nat :=
  if month = 2 then if isLeap year then 29 else 28
  else if month ∈ [4, 6, 9, 11] then 30
  else 31

/-- Reads `1979-05-27`. -/
def read? (s : Text) : Option (Date × Text) := do
  let (year, s) ← digits? 4 0 9999 s
  let (month, s) ← digits? 2 1 12 (← after? '-' s)
  let (day, s) ← digits? 2 1 (daysIn year month) (← after? '-' s)
  return ({ year, month, day }, s)

end Date

namespace Time

/-- The nanoseconds that the digits of a fraction stand for; digits after the ninth do not count. -/
def nanoseconds (fraction : Text) : Nat :=
  Nat.ofDigitChars 10 (fraction.take 9) 0 * Nat.pow 10 (9 - fraction.length)

/-- Reads `07:32:00` or `07:32:00.5`. -/
def read? (s : Text) : Option (Time × Text) := do
  let (hour, s) ← digits? 2 0 23 s
  let (minute, s) ← digits? 2 0 59 (← after? ':' s)
  let (second, s) ← digits? 2 0 60 (← after? ':' s)
  match s with
  | '.' :: c :: rest =>
    if c.isDigit then
      let fraction := (c :: rest).takeWhile Char.isDigit
      let s := (c :: rest).dropWhile Char.isDigit
      return ({ hour, minute, second, nanosecond := nanoseconds fraction }, s)
    else return ({ hour, minute, second, nanosecond := 0 }, s)
  | _ => return ({ hour, minute, second, nanosecond := 0 }, s)

end Time

namespace Offset

/-- Reads hours and minutes after a sign. -/
def readMinutes? (sign : Int) (s : Text) : Option (Offset × Text) := do
  let (hour, s) ← digits? 2 0 23 s
  let (minute, s) ← digits? 2 0 59 (← after? ':' s)
  return (minutes (sign * (hour * 60 + minute)), s)

/-- Reads `Z`, `+02:00` or `-02:00`. -/
def read? : Text → Option (Offset × Text)
  | 'Z' :: s | 'z' :: s => some (universal, s)
  | '+' :: s => readMinutes? 1 s
  | '-' :: s => readMinutes? (-1) s
  | _ => none

end Offset

namespace DateTime

/-- Whether a character may stand between a date and a time. -/
def isDelimiter (c : Char) : Bool := c = 'T' || c = 't' || c = ' '

/-- Reads what may follow a date: a time, and an offset after it. -/
def readAfterDate (d : Date) (s : Text) : DateTime × Text :=
  match s with
  | c :: rest =>
    if isDelimiter c then
      match Time.read? rest with
      | some (t, rest) =>
        match Offset.read? rest with
        | some (offset, rest) => (both d t (some offset), rest)
        | none => (both d t none, rest)
      | none => (date d, s)
    else (date d, s)
  | [] => (date d, s)

/-- Reads a date, with a time and an offset if they follow, or a time. -/
def read? (s : Text) : Option (DateTime × Text) :=
  match Date.read? s with
  | some (d, rest) => some (readAfterDate d rest)
  | none => (Time.read? s).map fun (t, rest) => (time t, rest)

end DateTime

/-! ## Writing -/

/-- A number with zeros in front of it. -/
def padded (width n : Nat) : Text := (Text.ofNat n).leftpad width '0'

/-- The text of a date. -/
def Date.text (d : Date) : Text :=
  padded 4 d.year ++ '-' :: padded 2 d.month ++ '-' :: padded 2 d.day

/-- The text of a time. -/
def Time.text (t : Time) : Text :=
  padded 2 t.hour ++ ':' :: padded 2 t.minute ++ ':' :: padded 2 t.second ++
    if t.nanosecond = 0 then []
    else '.' :: ((padded 9 t.nanosecond).reverse.dropWhile (· = '0')).reverse

/-- The text of an offset. -/
def Offset.text : Offset → Text
  | universal => ['Z']
  | minutes n =>
    (if n < 0 then '-' else '+') :: padded 2 (n.natAbs / 60) ++ ':' :: padded 2 (n.natAbs % 60)

/-- The text of a date or time, with a `T` between the two. -/
def DateTime.text : DateTime → Text
  | date d => d.text
  | time t => t.text
  | both d t offset => d.text ++ 'T' :: t.text ++ (offset.map Offset.text).getD []

end Toml

end Scribe
