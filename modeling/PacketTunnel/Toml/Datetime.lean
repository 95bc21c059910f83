import PacketTunnel.Text.Numeral

/-!
# Dates and times in TOML documents

A date of the calendar, a time of the day, or both, then with an offset from universal time if there
is one. Only their form is checked; nothing is kept of them.
-/

namespace PacketTunnel.Toml.Datetime

open Text

/-- A number of exactly so many digits between two bounds, and what follows it. -/
def field? (width least most : Nat) (text : List Char) : Option (Nat × List Char) :=
  let digits := text.take width
  if digits.length = width ∧ digits.all (Numeral.isDigit 10) then
    let n := Numeral.value 10 digits
    if least ≤ n ∧ n ≤ most then some (n, text.drop width) else none
  else none

/-- What follows a character. -/
def behind? (wanted : Char) : List Char → Option (List Char)
  | c :: rest => if c = wanted then some rest else none
  | [] => none

/-- The number of days of a month. -/
def daysIn (year month : Nat) : Nat :=
  if month = 2 then
    if year % 4 = 0 ∧ (year % 100 ≠ 0 ∨ year % 400 = 0) then 29 else 28
  else if month = 4 ∨ month = 6 ∨ month = 9 ∨ month = 11 then 30
  else 31

/-- What follows a date. -/
def date? (text : List Char) : Option (List Char) := do
  let (year, rest) ← field? 4 0 9999 text
  let (month, rest) ← field? 2 1 12 (← behind? '-' rest)
  let (_, rest) ← field? 2 1 (daysIn year month) (← behind? '-' rest)
  return rest

/-- What follows an hour and a minute. -/
def minutes? (text : List Char) : Option (List Char) := do
  let (_, rest) ← field? 2 0 23 text
  let (_, rest) ← field? 2 0 59 (← behind? ':' rest)
  return rest

/-- What follows the fraction of a second, if there is one. -/
def dropFraction (text : List Char) : List Char :=
  match text with
  | '.' :: rest =>
    if rest.head?.any (Numeral.isDigit 10) then rest.dropWhile (Numeral.isDigit 10) else text
  | _ => text

/-- What follows a time of the day. A minute may have a leap second. -/
def time? (text : List Char) : Option (List Char) := do
  let (_, rest) ← field? 2 0 60 (← behind? ':' (← minutes? text))
  return dropFraction rest

/-- What follows an offset, if there is one. -/
def dropOffset (text : List Char) : List Char :=
  match text with
  | [] => []
  | c :: rest =>
    if c = 'Z' ∨ c = 'z' then rest
    else if c = '+' ∨ c = '-' then (minutes? rest).getD text
    else text

/-- What follows the time behind a date, if there is one. -/
def dropTime (text : List Char) : List Char :=
  match text with
  | [] => []
  | c :: rest =>
    if c = 'T' ∨ c = 't' ∨ c = ' ' then ((time? rest).map dropOffset).getD text else text

/-- What follows a date with or without a time, or a time alone. -/
def read? (text : List Char) : Option (List Char) :=
  ((date? text).map dropTime).or (time? text)

end PacketTunnel.Toml.Datetime
