import TwoWaySql.Toml.Basic

/-!
# TOML dates and times

A date is year, month and day; a time is hour, minute and second with an optional fraction. A
date may be followed by a time, and that by an offset. Every part has to be in its range.
-/
namespace TwoWaySql.Toml

/-- The number of `n` digits that a text consists of, if it is at most `last`. -/
def part? (n first last : Nat) (t : Text) : Option Nat :=
  let value := Text.toNat t
  if t.length = n ∧ t.all Text.isAsciiDigit ∧ first ≤ value ∧ value ≤ last then some value
  else none

/-- Whether a year has a 29th of February. -/
def isLeap (year : Nat) : Bool := year % 4 = 0 && (year % 100 ≠ 0 || year % 400 = 0)

/-- The number of days of a month. -/
def daysIn (year month : Nat) : Nat :=
  if month = 2 then (if isLeap year then 29 else 28)
  else if month = 4 ∨ month = 6 ∨ month = 9 ∨ month = 11 then 30
  else 31

/-- Whether a text is a date. -/
def isDate (t : Text) : Bool :=
  match Text.splitOn '-' t with
  | [year, month, day] =>
    match part? 4 0 9999 year, part? 2 1 12 month with
    | some year, some month => (part? 2 1 (daysIn year month) day).isSome
    | _, _ => false
  | _ => false

/-- Whether a text is the seconds of a time, with an optional fraction. -/
def isSecond (t : Text) : Bool :=
  match Text.splitOn '.' t with
  | [second] => (part? 2 0 60 second).isSome
  | [second, fraction] =>
    (part? 2 0 60 second).isSome && !fraction.isEmpty && fraction.all Text.isAsciiDigit
  | _ => false

/-- Whether a text is a time. -/
def isTime (t : Text) : Bool :=
  match Text.splitOn ':' t with
  | [hour, minute, second] =>
    (part? 2 0 23 hour).isSome && (part? 2 0 59 minute).isSome && isSecond second
  | _ => false

/-- Whether a text is hours and minutes of an offset. -/
def isOffset (t : Text) : Bool :=
  match Text.splitOn ':' t with
  | [hour, minute] => (part? 2 0 23 hour).isSome && (part? 2 0 59 minute).isSome
  | _ => false

/-- Whether a text is a time with an optional offset. -/
def isTimeWithOffset (t : Text) : Bool :=
  let time := t.takeWhile fun c => Text.isAsciiDigit c || c = ':' || c = '.'
  isTime time &&
    match t.drop time.length with
    | [] => true
    | [c] => c = 'Z' || c = 'z'
    | c :: rest => (c = '+' || c = '-') && isOffset rest

/-- A date, a time, or a date and a time with a letter between them. -/
def readDatetime? (t : Text) : Option Toml :=
  let valid :=
    isDate t || isTime t ||
      match t.drop 10 with
      | c :: rest => isDate (t.take 10) && (c = 'T' || c = 't') && isTimeWithOffset rest
      | [] => false
  if valid then some (datetime t) else none

end TwoWaySql.Toml
