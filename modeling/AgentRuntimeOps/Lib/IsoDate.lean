import Mathlib.Data.String.Basic
import AgentRuntimeOps.Lib.Bytes
import AgentRuntimeOps.Lib.CalendarOrder

/-!
# ISO dates

`date.isoformat()` and `date.fromisoformat`, with a date as the number of days since `0001-01-01`.
There are more texts than dates: `fromisoformat` also reads `20260101` and the dates of ISO weeks.
-/

namespace AgentRuntimeOps.Lib

namespace IsoDate

open DateTime

/-- The days up to `9999-12-31`. -/
def dayCount : Nat := daysBeforeYear 10000

/-! ## Writing -/

/-- The text of a calendar date. -/
def dateText (t : DateTime) : List Char :=
  twoDigits (t.year / 100) ++ (twoDigits (t.year % 100) ++ ('-' :: (twoDigits t.month ++
    ('-' :: twoDigits t.day))))

/-- `day.isoformat()` -/
def isoformat (day : Nat) : String := String.ofList (dateText (ofSeconds (day * 86400)))

/-! ## Reading -/

/-- `date(year, month, day)` -/
def ofDate (year month day : Nat) : Option Nat :=
  if 1 ≤ year ∧ year ≤ 9999 ∧ 1 ≤ month ∧ month ≤ 12 ∧ 1 ≤ day ∧ day ≤ daysInMonth year month then
    some (daysBeforeYear year + daysBeforeMonth year month + (day - 1))
  else none

/-- The Monday of the first ISO week of a year; `0001-01-01` was a Monday. -/
def firstMonday (year : Nat) : Nat :=
  let first := daysBeforeYear year
  if first % 7 ≤ 3 then first - first % 7 else first - first % 7 + 7

/-- The year has an ISO week 53. -/
def hasLongYear (year : Nat) : Bool :=
  daysBeforeYear year % 7 = 3 || (daysBeforeYear year % 7 = 2 && isLeap year)

/-- The date of a day of an ISO week. -/
def ofWeek (year week day : Nat) : Option Nat :=
  if 1 ≤ year ∧ 1 ≤ week ∧ (week ≤ 52 ∨ week = 53 ∧ hasLongYear year) ∧ 1 ≤ day ∧ day ≤ 7 then
    let date := firstMonday year + (week - 1) * 7 + (day - 1)
    if date < dayCount then some date else none
  else none

/-- Two digits. -/
def readTwo : List Char → Option (Nat × List Char)
  | c :: d :: rest =>
      if c.isDigit && d.isDigit then some (digitValue c * 10 + digitValue d, rest) else none
  | _ => none

/-- A dash, where the text has dashes. -/
def readDash (separated : Bool) (text : List Char) : Option (List Char) :=
  if separated then
    match text with
    | '-' :: rest => some rest
    | _ => none
  else some text

/-- A week and a day of it; what follows the day is not looked at. -/
def readWeek (separated : Bool) (year : Nat) (text : List Char) : Option Nat := do
  let (week, rest) ← readTwo text
  if rest = [] then ofWeek year week 1
  else
    match ← readDash separated rest with
    | c :: _ => if c.isDigit then ofWeek year week (digitValue c) else none
    | [] => none

/-- A month and a day of it. -/
def readMonthDay (separated : Bool) (year : Nat) (text : List Char) : Option Nat := do
  let (month, rest) ← readTwo text
  let rest ← readDash separated rest
  let (day, rest) ← readTwo rest
  if rest = [] then ofDate year month day else none

/-- `date.fromisoformat(text)`; `none` where it raises. -/
def fromisoformat (text : String) : Option Nat :=
  let length := (utf8 text.toList).length
  if length = 7 ∨ length = 8 ∨ length = 10 then
    match readYear text.toList with
    | some (year, '-' :: 'W' :: rest) => readWeek true year rest
    | some (year, 'W' :: rest) => readWeek false year rest
    | some (year, '-' :: rest) => readMonthDay true year rest
    | some (year, rest) => readMonthDay false year rest
    | none => none
  else none

example : fromisoformat "2026-01-01" = fromisoformat "20260101" ∧
    fromisoformat "2026-W01-4" = fromisoformat "2026-01-01" ∧
    fromisoformat "2026-01-1" = none := by decide

/-! ## Dates and their texts -/

lemma ofDate_lt {year month day n : Nat} (h : ofDate year month day = some n) : n < dayCount := by
  unfold ofDate at h
  split_ifs at h with hdate
  obtain ⟨hyear, hyear', hmonth, hmonth', hday, hday'⟩ := hdate
  have hreal : (⟨year, month, day, 0, 0, 0⟩ : DateTime).isReal = true :=
    decide_eq_true ⟨hyear, hmonth, hmonth', hday, hday', Nat.zero_lt_succ _, Nat.zero_lt_succ _,
      Nat.zero_lt_succ _⟩
  have hnext := (dayNumber_bounds hreal).2.2
  have hmono := daysBeforeYear_mono (a := year + 1) (b := 10000) (by omega) (by omega)
  rw [← Option.some.inj h]
  exact lt_of_lt_of_le hnext hmono

lemma ofWeek_lt {year week day n : Nat} (h : ofWeek year week day = some n) : n < dayCount := by
  unfold ofWeek at h
  split_ifs at h
  dsimp only at h
  split_ifs at h with hdate
  rw [← Option.some.inj h]
  exact hdate

/-- What is read is a date up to `9999-12-31`. -/
theorem fromisoformat_lt {text : String} {n : Nat} (h : fromisoformat text = some n) :
    n < dayCount := by
  have hweek : ∀ {separated year rest}, readWeek separated year rest = some n → n < dayCount := by
    intro separated year rest h
    obtain ⟨⟨week, rest⟩, -, h⟩ := Option.bind_eq_some_iff.mp h
    dsimp only at h
    split_ifs at h
    · exact ofWeek_lt h
    · obtain ⟨rest, -, h⟩ := Option.bind_eq_some_iff.mp h
      split at h
      · split_ifs at h
        exact ofWeek_lt h
      · exact nomatch h
  have hdate : ∀ {separated year rest}, readMonthDay separated year rest = some n →
      n < dayCount := by
    intro separated year rest h
    obtain ⟨⟨month, rest⟩, -, h⟩ := Option.bind_eq_some_iff.mp h
    obtain ⟨rest, -, h⟩ := Option.bind_eq_some_iff.mp h
    obtain ⟨⟨day, rest⟩, -, h⟩ := Option.bind_eq_some_iff.mp h
    dsimp only at h
    split_ifs at h
    exact ofDate_lt h
  unfold fromisoformat at h
  dsimp only at h
  split_ifs at h
  split at h
  · exact hweek h
  · exact hweek h
  · exact hdate h
  · exact hdate h
  · exact nomatch h

/-- The calendar date of a day. -/
lemma ofSeconds_day {day : Nat} (h : day < dayCount) :
    (ofSeconds (day * 86400)).isReal = true ∧ (ofSeconds (day * 86400)).dayNumber = day ∧
      (ofSeconds (day * 86400)).year ≤ 9999 := by
  obtain ⟨hreal, hseconds⟩ := ofSeconds_spec (day * 86400)
  have hclock := secondOfDay_lt hreal
  rw [toSeconds_eq] at hseconds
  have hnumber : (ofSeconds (day * 86400)).dayNumber = day := by omega
  refine ⟨hreal, hnumber, ?_⟩
  by_contra hyear
  have hmono := daysBeforeYear_mono (a := 10000) (b := (ofSeconds (day * 86400)).year) (by omega)
    (by omega)
  have hbounds := (dayNumber_bounds hreal).1
  rw [hnumber] at hbounds
  unfold dayCount at h
  omega

lemma dateText_lt {t t' : DateTime} (h : t.isReal = true) (h' : t'.isReal = true)
    (hyear : t'.year ≤ 9999) (hlt : t.dayNumber < t'.dayNumber) : dateText t < dateText t' := by
  obtain ⟨-, -, hmonth, hday, hday', -⟩ := of_decide_eq_true h
  obtain ⟨-, -, hmonth', hday₁, hday₂, -⟩ := of_decide_eq_true h'
  have hdays : daysInMonth t'.year t'.month ≤ 31 := by
    unfold daysInMonth
    split_ifs <;> omega
  have hcons : ∀ {c : Char} {x y : List Char}, x < y → c :: x < c :: y :=
    fun hxy => List.cons_lt_cons_iff.mpr (.inr ⟨rfl, hxy⟩)
  have hlex : t.year < t'.year ∨ t.year = t'.year ∧ (t.month < t'.month ∨ t.month = t'.month ∧
      t.day < t'.day) := by
    rcases Nat.lt_trichotomy t.year t'.year with hless | hsame | hmore
    · exact .inl hless
    · refine .inr ⟨hsame, ?_⟩
      rcases Nat.lt_trichotomy t.month t'.month with hless | hsame' | hmore
      · exact .inl hless
      · refine .inr ⟨hsame', ?_⟩
        unfold dayNumber at hlt
        rw [hsame, hsame'] at hlt
        omega
      · have hback := dayNumber_lt_of_month h' h hsame.symm hmore
        omega
    · have hback := dayNumber_lt_of_year h' h hmore
      omega
  unfold dateText
  by_cases hcentury : t.year / 100 = t'.year / 100
  · refine field_lt (by omega) (.inr ⟨hcentury, field_lt (by omega) ?_⟩)
    rcases hlex with hless | ⟨hsame, hlex⟩
    · exact .inl (by omega)
    · refine .inr ⟨by rw [hsame], hcons (field_lt (by omega) ?_)⟩
      refine hlex.imp_right fun ⟨hsame', hless⟩ => ⟨hsame', hcons ?_⟩
      exact twoDigits_lt hless (by omega)
  · refine field_lt (by omega) (.inl ?_)
    rcases hlex with hless | ⟨hsame, -⟩
    · omega
    · exact absurd (by rw [hsame]) hcentury

/-- **The texts of days are ordered as the days.** -/
theorem isoformat_lt {a b : Nat} (h : a < b) (hb : b < dayCount) : isoformat a < isoformat b := by
  obtain ⟨hreal, hnumber, -⟩ := ofSeconds_day (h.trans hb)
  obtain ⟨hreal', hnumber', hyear⟩ := ofSeconds_day hb
  unfold isoformat
  rw [String.lt_iff, String.toList_ofList, String.toList_ofList]
  exact dateText_lt hreal hreal' hyear (by rw [hnumber, hnumber']; exact h)

lemma isoformat_le_iff {a b : Nat} (ha : a < dayCount) (hb : b < dayCount) :
    isoformat a ≤ isoformat b ↔ a ≤ b := by
  constructor
  · intro h
    by_contra hlt
    exact absurd (isoformat_lt (not_le.mp hlt) ha) (not_lt.mpr h)
  · intro h
    rcases h.lt_or_eq with hlt | rfl
    · exact (isoformat_lt hlt hb).le
    · exact le_rfl

end IsoDate

end AgentRuntimeOps.Lib
