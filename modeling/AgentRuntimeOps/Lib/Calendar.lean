import Mathlib.Tactic

/-!
# UTC timestamps to the second

`strptime` reads the format `%Y-%m-%dT%H:%M:%SZ` and `strftime` writes it; in between a point in
time is the number of seconds since `0001-01-01T00:00:00Z` in the proleptic Gregorian calendar.

Reading is as lenient as `datetime.strptime`: month, day, hour, minute and second may have one digit,
the day may be padded with a blank, and `T` and `Z` may be lower-case.  Digits are ASCII.
-/

namespace AgentRuntimeOps.Lib

/-- A calendar date and a time of day. -/
structure DateTime where
  year : Nat
  month : Nat
  day : Nat
  hour : Nat
  minute : Nat
  second : Nat
  deriving DecidableEq, Repr

namespace DateTime

/-- A leap year of the Gregorian calendar. -/
def isLeap (year : Nat) : Bool := year % 4 == 0 && (year % 100 != 0 || year % 400 == 0)

/-- The number of days of a month. -/
def daysInMonth (year month : Nat) : Nat :=
  if month = 2 then (if isLeap year then 29 else 28)
  else if month = 4 ∨ month = 6 ∨ month = 9 ∨ month = 11 then 30
  else 31

/-- The number of days of a year. -/
def daysInYear (year : Nat) : Nat := if isLeap year then 366 else 365

/-- The number of days before the first of January of a year, counted from `0001-01-01`. -/
def daysBeforeYear (year : Nat) : Nat :=
  (year - 1) * 365 + (year - 1) / 4 - (year - 1) / 100 + (year - 1) / 400

/-- The number of days of the first `month - 1` months of a year. -/
def daysBeforeMonth (year : Nat) : Nat → Nat
  | 0 => 0
  | 1 => 0
  | month + 2 => daysBeforeMonth year (month + 1) + daysInMonth year (month + 1)

/-- A date that exists and a time of day that exists. -/
def isReal (t : DateTime) : Bool :=
  decide (1 ≤ t.year ∧ 1 ≤ t.month ∧ t.month ≤ 12 ∧ 1 ≤ t.day ∧ t.day ≤ daysInMonth t.year t.month ∧
    t.hour < 24 ∧ t.minute < 60 ∧ t.second < 60)

/-- Seconds since `0001-01-01T00:00:00Z`. -/
def toSeconds (t : DateTime) : Nat :=
  (daysBeforeYear t.year + daysBeforeMonth t.year t.month + (t.day - 1)) * 86400 +
    t.hour * 3600 + t.minute * 60 + t.second

/-- The month and day of the `n`-th day (from `0`) of a year, searching from `month`. -/
def monthDay (year : Nat) : Nat → Nat → Nat → Nat × Nat
  | 0, month, n => (month, n + 1)
  | fuel + 1, month, n =>
    if n < daysInMonth year month then (month, n + 1)
    else monthDay year fuel (month + 1) (n - daysInMonth year month)

/-- The year that contains the `n`-th day since `0001-01-01`, by the cycles of 400, 100, 4 and 1
years.  The last day of a cycle would be counted as one year too many. -/
def yearOfDay (n : Nat) : Nat :=
  let n₄₀₀ := n / 146097
  let n₁₀₀ := n % 146097 / 36524
  let n₄ := n % 146097 % 36524 / 1461
  let n₁ := n % 146097 % 36524 % 1461 / 365
  let years := n₄₀₀ * 400 + n₁₀₀ * 100 + n₄ * 4 + n₁
  if n₁ = 4 ∨ n₁₀₀ = 4 then years else years + 1

/-- The point in time that is `n` seconds after `0001-01-01T00:00:00Z`. -/
def ofSeconds (n : Nat) : DateTime :=
  let day := n / 86400
  let time := n % 86400
  let year := yearOfDay day
  let md := monthDay year 12 1 (day - daysBeforeYear year)
  ⟨year, md.1, md.2, time / 3600, time / 60 % 60, time % 60⟩

/-- Two decimal digits. -/
def twoDigits (n : Nat) : List Char := [Nat.digitChar (n / 10 % 10), Nat.digitChar (n % 10)]

/-- `strftime("%Y-%m-%dT%H:%M:%SZ")`: the year has four digits. -/
def strftime (t : DateTime) : String :=
  String.ofList (twoDigits (t.year / 100) ++ twoDigits t.year ++ '-' :: twoDigits t.month ++ '-' :: twoDigits t.day ++
    'T' :: twoDigits t.hour ++ ':' :: twoDigits t.minute ++ ':' :: twoDigits t.second ++ ['Z'])

/-! ## Reading -/

/-- The value of a decimal digit. -/
def digitValue (c : Char) : Nat := c.toNat - '0'.toNat

/-- A number of one or two digits and what follows it. -/
def readNumber : List Char → Option (Nat × List Char)
  | c :: d :: rest =>
    if c.isDigit then
      if d.isDigit then some (digitValue c * 10 + digitValue d, rest)
      else some (digitValue c, d :: rest)
    else none
  | [c] => if c.isDigit then some (digitValue c, []) else none
  | [] => none

/-- The day of the month: a number, or a blank and one digit. -/
def readDay : List Char → Option (Nat × List Char)
  | ' ' :: c :: rest => if c.isDigit then some (digitValue c, rest) else none
  | text => readNumber text

/-- The year: exactly four digits. -/
def readYear : List Char → Option (Nat × List Char)
  | a :: b :: c :: d :: rest =>
    if a.isDigit && b.isDigit && c.isDigit && d.isDigit then
      some (digitValue a * 1000 + digitValue b * 100 + digitValue c * 10 + digitValue d, rest)
    else none
  | _ => none

/-- One expected character, in either case. -/
def readChar (expected : Char) : List Char → Option (List Char)
  | c :: rest => if c = expected ∨ c = expected.toLower then some rest else none
  | [] => none

/-- A directive of the format. -/
inductive Directive where
  | year
  | number
  | day
  | literal (c : Char)

/-- The numbers a text spells when it matches the directives to its end. -/
def readFormat : List Directive → List Char → Option (List Nat)
  | [], text => if text.isEmpty then some [] else none
  | .year :: ds, text =>
    (readYear text).bind fun r => (readFormat ds r.2).map (r.1 :: ·)
  | .number :: ds, text =>
    (readNumber text).bind fun r => (readFormat ds r.2).map (r.1 :: ·)
  | .day :: ds, text =>
    (readDay text).bind fun r => (readFormat ds r.2).map (r.1 :: ·)
  | .literal c :: ds, text => (readChar c text).bind (readFormat ds)

/-- `%Y-%m-%dT%H:%M:%SZ`. -/
def format : List Directive :=
  [.year, .literal '-', .number, .literal '-', .day, .literal 'T', .number, .literal ':', .number,
    .literal ':', .number, .literal 'Z']

/-- `datetime.strptime(text, "%Y-%m-%dT%H:%M:%SZ")`; `none` stands for its `ValueError`. -/
def strptime (text : String) : Option DateTime :=
  match readFormat format text.toList with
  | some [year, month, day, hour, minute, second] =>
    if isReal ⟨year, month, day, hour, minute, second⟩ then
      some ⟨year, month, day, hour, minute, second⟩
    else none
  | _ => none

lemma readFormat_year {ds : List Directive} {text : List Char} {n : Nat} {ns : List Nat}
    (h : readFormat (.year :: ds) text = some (n :: ns)) :
    ∃ rest, readYear text = some (n, rest) := by
  rw [readFormat, Option.bind_eq_some_iff] at h
  obtain ⟨⟨year, rest⟩, hyear, h⟩ := h
  rw [Option.map_eq_some_iff] at h
  obtain ⟨ms, -, hms⟩ := h
  cases hms
  exact ⟨rest, hyear⟩

/-- The year of a point in time that was read is the one its first four characters spell. -/
lemma year_of_strptime {text : String} {t : DateTime} (h : strptime text = some t) :
    ∃ rest, readYear text.toList = some (t.year, rest) := by
  unfold strptime at h
  split at h
  · next heq =>
    split_ifs at h
    cases h
    exact readFormat_year heq
  · cases h

example : (strptime "2024-02-29T23:59:58Z").map (fun t => (ofSeconds (t.toSeconds + 2)).strftime) =
    some "2024-03-01T00:00:00Z" := by decide

example : (strptime "2001-01-01T00:00:00Z").map (fun t => (ofSeconds (t.toSeconds - 1)).strftime) =
    some "2000-12-31T23:59:59Z" := by decide

example : strptime "2023-02-29T00:00:00Z" = none := by decide

end DateTime

end AgentRuntimeOps.Lib
