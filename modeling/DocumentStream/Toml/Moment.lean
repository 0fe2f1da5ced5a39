import DocumentStream.Moment

/-!
Dates and times in TOML. A time may follow a date after a space or a letter, and an offset may
follow such a time. Of the digits of a fraction the first six count.
-/

namespace DocumentStream.Toml

/-- A number below a bound, written with a fixed count of digits. -/
def number (width bound : Nat) (text : Text) : Option (Fin bound × Text) :=
  let digits := text.take width
  if h : Text.toNat 10 digits < bound then
    if digits.length = width ∧ digits.all Char.isDigit then
      some (⟨Text.toNat 10 digits, h⟩, text.drop width)
    else
      none
  else
    none

/-- The microseconds of a fraction. -/
def microsecond : Text → Option (Fin 1000000 × Text)
  | '.' :: rest =>
    match rest.span Char.isDigit with
    | ([], _) => none
    | (digits, rest) =>
      (number 6 1000000 (digits ++ List.replicate (6 - digits.length) '0')).map fun (n, _) =>
        (n, rest)
  | _ => none

def clockTime (text : Text) : Option (ClockTime × Text) := do
  let (hour, rest) ← number 2 24 text
  let (minute, rest) ← number 2 60 (← Text.after? [':'] rest)
  let (second, rest) ← number 2 60 (← Text.after? [':'] rest)
  let (microsecond, rest) := (microsecond rest).getD (⟨0, by decide⟩, rest)
  return ({ hour, minute, second, microsecond }, rest)

/-- A date; a day that its month does not have is none. -/
def date (text : Text) : Option (Date × Text) := do
  let (year, rest) ← number 4 10000 text
  let (month, rest) ← number 2 13 (← Text.after? ['-'] rest)
  let (day, rest) ← number 2 32 (← Text.after? ['-'] rest)
  return (← Date.ofNumbers? year month day, rest)

/-- The time after a date. -/
def laterTime : Text → Option (ClockTime × Text)
  | c :: rest => if c = 'T' ∨ c = 't' ∨ c = ' ' then clockTime rest else none
  | [] => none

/-- An offset after its sign, in hours and minutes. -/
def signedOffset (negative : Bool) (text : Text) : Option (TimeOffset × Text) := do
  let (hour, rest) ← number 2 24 text
  let (minute, rest) ← number 2 60 (← Text.after? [':'] rest)
  let minutes : Int := hour * 60 + minute
  have hless : minutes.natAbs < 24 * 60 := by omega
  return ({
    minutes := if negative then -minutes else minutes
    lessThanDay := by split <;> omega }, rest)

def offset : Text → Option (TimeOffset × Text)
  | 'Z' :: rest | 'z' :: rest => some (.universal, rest)
  | '+' :: rest => signedOffset false rest
  | '-' :: rest => signedOffset true rest
  | _ => none

def moment (text : Text) : Option (Moment × Text) :=
  match date text with
  | none => (clockTime text).map fun (clock, rest) => (.time clock, rest)
  | some (day, rest) =>
    match laterTime rest with
    | none => some (.date day, rest)
    | some (clock, rest) =>
      match offset rest with
      | none => some (.dateTime day clock none, rest)
      | some (offset, rest) => some (.dateTime day clock (some offset), rest)

end DocumentStream.Toml
