import AgentWorkflow.Text

/-!
# Dates and times in TOML

A moment is a date, a time, or both, and then perhaps the offset from universal
time. Moments are checked against the calendar when they are read and always
written the same way, so that two spellings of one moment become one text. Of a
fraction of a second nine digits count.
-/

namespace AgentWorkflow.Toml

/-- A day of the calendar. -/
structure Date where
  /-- The year, of four digits. -/
  year : Nat
  /-- The month, from one. -/
  month : Nat
  /-- The day of the month, from one. -/
  day : Nat

/-- A time of day. -/
structure Time where
  /-- The hour. -/
  hour : Nat
  /-- The minute. -/
  minute : Nat
  /-- The second; sixty where one is inserted. -/
  second : Nat
  /-- The part of a second. -/
  nanosecond : Nat

/-- How far a clock is from universal time. -/
inductive Offset where
  /-- It shows universal time. -/
  | universal
  /-- It is so many minutes ahead. -/
  | minutes (ahead : Int)

/-- A date, a time, or both. -/
inductive Moment where
  /-- A day. -/
  | date (d : Date)
  /-- A time of any day. -/
  | time (t : Time)
  /-- A time of a day. -/
  | both (d : Date) (t : Time) (offset : Option Offset)

/-- The number of days in a month. -/
def Date.daysIn (year month : Nat) : Nat :=
  if month = 2 then
    if year % 4 = 0 ∧ (year % 100 ≠ 0 ∨ year % 400 = 0) then 29 else 28
  else if [4, 6, 9, 11].contains month then 30
  else 31

namespace Moment

/-! ## Reading -/

/-- A number of so many digits, and what follows it. -/
def fixed? (width : Nat) (s : List Char) : Option (Nat × List Char) :=
  if (s.take width).length = width then
    (Text.readDigits? 10 (s.take width)).map (·, s.drop width)
  else none

/-- What follows a given character. -/
def after? (c : Char) : List Char → Option (List Char)
  | d :: r => if d = c then some r else none
  | [] => none

/-- The day that begins here, and what follows it. -/
def date? (s : List Char) : Option (Date × List Char) := do
  let (year, r) ← fixed? 4 s
  let (month, r) ← fixed? 2 (← after? '-' r)
  let (day, r) ← fixed? 2 (← after? '-' r)
  if 1 ≤ month ∧ month ≤ 12 ∧ 1 ≤ day ∧ day ≤ Date.daysIn year month then
    some (⟨year, month, day⟩, r)
  else none

/-- The fraction of a second that begins here in nanoseconds, and what follows
it. -/
def fraction (s : List Char) : Nat × List Char :=
  match s with
  | '.' :: r =>
    let ds := r.takeWhile Char.isDigit
    let nine := ds.take 9
    match Text.readDigits? 10 nine with
    | some n => (n * Nat.pow 10 (9 - nine.length), r.dropWhile Char.isDigit)
    | none => (0, s)
  | _ => (0, s)

/-- The time that begins here, and what follows it. -/
def time? (s : List Char) : Option (Time × List Char) := do
  let (hour, r) ← fixed? 2 s
  let (minute, r) ← fixed? 2 (← after? ':' r)
  let (second, r) ← fixed? 2 (← after? ':' r)
  let (nanosecond, r) := fraction r
  if hour ≤ 23 ∧ minute ≤ 59 ∧ second ≤ 60 then some (⟨hour, minute, second, nanosecond⟩, r)
  else none

/-- The offset that begins here, if there is one, and what follows it. -/
def offset (s : List Char) : Option Offset × List Char :=
  let clock (sign : Int) (r : List Char) : Option (Option Offset × List Char) := do
    let (hours, r) ← fixed? 2 r
    let (minutes, r) ← fixed? 2 (← after? ':' r)
    if hours ≤ 23 ∧ minutes ≤ 59 then
      some (some (.minutes (sign * (hours * 60 + minutes : Nat))), r)
    else none
  match s with
  | 'Z' :: r | 'z' :: r => (some .universal, r)
  | '+' :: r => (clock 1 r).getD (none, s)
  | '-' :: r => (clock (-1) r).getD (none, s)
  | _ => (none, s)

/-- **The moment that begins here**, and what follows it. -/
def read? (s : List Char) : Option (Moment × List Char) :=
  match date? s with
  | none => (time? s).map fun (t, r) => (.time t, r)
  | some (d, r) =>
    match r with
    | c :: r' =>
      match if c = 'T' ∨ c = 't' ∨ c = ' ' then time? r' else none with
      | some (t, r') =>
        let (o, r') := offset r'
        some (.both d t o, r')
      | none => some (.date d, r)
    | [] => some (.date d, r)

/-! ## Writing -/

/-- A number with zeros in front, of at least so many digits. -/
def padded (width n : Nat) : String :=
  let ds := String.ofList (Nat.toDigits 10 n)
  Text.repeated (width - ds.length) '0' ++ ds

/-- The day in words. -/
def dateText (d : Date) : String :=
  padded 4 d.year ++ "-" ++ padded 2 d.month ++ "-" ++ padded 2 d.day

/-- The time in words, without zeros at the end of a fraction. -/
def timeText (t : Time) : String :=
  let whole := padded 2 t.hour ++ ":" ++ padded 2 t.minute ++ ":" ++ padded 2 t.second
  let digits := (padded 9 t.nanosecond).toList.reverse.dropWhile (· = '0')
  if digits.isEmpty then whole else whole ++ "." ++ String.ofList digits.reverse

/-- The offset in words. -/
def offsetText : Offset → String
  | .universal => "Z"
  | .minutes ahead =>
    (if ahead < 0 then "-" else "+") ++ padded 2 (ahead.natAbs / 60) ++ ":"
      ++ padded 2 (ahead.natAbs % 60)

/-- **The one way in which a moment is written.** -/
def text : Moment → String
  | date d => dateText d
  | time t => timeText t
  | both d t o => dateText d ++ "T" ++ timeText t ++ (o.map offsetText).getD ""

end Moment

end AgentWorkflow.Toml
