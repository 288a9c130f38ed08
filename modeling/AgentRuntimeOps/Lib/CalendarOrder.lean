import AgentRuntimeOps.Lib.Calendar

/-!
# Timestamps are ordered as the instants they name

A timestamp that `strftime` wrote has a fixed width, so comparing two of them as texts compares
year, month, day, hour, minute and second in turn, and that compares the instants.  A client that
stores timestamps as texts uses `Stamp`, the text of an instant, with

* `strptime_stamp`, which reads it back, and
* `stamp_le_iff`, by which the order of the texts is the order of the seconds.
-/

namespace AgentRuntimeOps.Lib

namespace DateTime

/-! ## The calendar of an instant -/

lemma isLeap_iff (year : Nat) : isLeap year = true ↔ 4 ∣ year ∧ (¬ 100 ∣ year ∨ 400 ∣ year) := by
  unfold isLeap
  simp only [Bool.and_eq_true, Bool.or_eq_true, beq_iff_eq, bne_iff_ne, Nat.dvd_iff_mod_eq_zero, ne_eq]

lemma daysInYear_cases (year : Nat) : daysInYear year = 365 ∨ daysInYear year = 366 := by
  unfold daysInYear
  split_ifs
  · exact .inr rfl
  · exact .inl rfl

lemma daysBeforeYear_succ {year : Nat} (h : 1 ≤ year) :
    daysBeforeYear (year + 1) = daysBeforeYear year + daysInYear year := by
  obtain ⟨y, rfl⟩ := Nat.exists_eq_add_of_le' h
  have hle : y / 100 ≤ y / 4 := Nat.div_le_div_left (by decide) (by decide)
  have h₁ : 400 ∣ y + 1 → 100 ∣ y + 1 := Nat.dvd_trans (by decide)
  have h₂ : 100 ∣ y + 1 → 4 ∣ y + 1 := Nat.dvd_trans (by decide)
  unfold daysBeforeYear daysInYear
  simp only [Nat.add_sub_cancel, isLeap_iff, Nat.succ_div]
  generalize y / 4 = a at *
  generalize y / 100 = b at *
  generalize y / 400 = c at *
  by_cases h4 : 4 ∣ y + 1
  · by_cases h100 : 100 ∣ y + 1
    · by_cases h400 : 400 ∣ y + 1
      · simp only [h4, h100, h400, if_true, not_true, or_true, and_self]
        omega
      · simp only [h4, h100, h400, if_true, if_false, not_true, or_false, and_false]
        omega
    · have h400 : ¬ 400 ∣ y + 1 := fun h => h100 (h₁ h)
      simp only [h4, h100, h400, if_true, if_false, not_false_iff, true_or, and_self]
      omega
  · have h100 : ¬ 100 ∣ y + 1 := fun h => h4 (h₂ h)
    have h400 : ¬ 400 ∣ y + 1 := fun h => h100 (h₁ h)
    simp only [h4, h100, h400, if_false, false_and]
    omega

lemma daysBeforeMonth_thirteen (year : Nat) : daysBeforeMonth year 13 = daysInYear year := by
  cases h : isLeap year with
  | true => simp [daysBeforeMonth, daysInMonth, daysInYear, h]
  | false => simp [daysBeforeMonth, daysInMonth, daysInYear, h]

/-- The days before a year, by the cycles that end before it. -/
lemma daysBeforeYear_cycles (a : Nat) {b c d : Nat} (hb : b ≤ 3) (hc : c ≤ 24) (hd : d ≤ 3) :
    daysBeforeYear (a * 400 + b * 100 + c * 4 + d + 1) =
      146097 * a + 36524 * b + 1461 * c + 365 * d := by
  have h₄ : (a * 400 + b * 100 + c * 4 + d) / 4 = 100 * a + 25 * b + c := by omega
  have h₁₀₀ : (a * 400 + b * 100 + c * 4 + d) / 100 = 4 * a + b := by omega
  have h₄₀₀ : (a * 400 + b * 100 + c * 4 + d) / 400 = a := by omega
  unfold daysBeforeYear
  rw [Nat.add_sub_cancel, h₄, h₁₀₀, h₄₀₀]
  omega

/-- The last day of a leap year. -/
lemma lt_daysBeforeYear_of_leap {year n : Nat} (hyear : 1 ≤ year) (hleap : isLeap year = true)
    (hn : n = daysBeforeYear year + 365) :
    daysBeforeYear year ≤ n ∧ n < daysBeforeYear (year + 1) := by
  rw [daysBeforeYear_succ hyear, daysInYear, if_pos hleap]
  omega

/-- The year of a day is the one that contains it. -/
lemma yearOfDay_spec (n : Nat) : 1 ≤ yearOfDay n ∧ daysBeforeYear (yearOfDay n) ≤ n ∧
    n < daysBeforeYear (yearOfDay n + 1) := by
  have h₀ := Nat.div_add_mod n 146097
  have h₁ := Nat.div_add_mod (n % 146097) 36524
  have h₂ := Nat.div_add_mod (n % 146097 % 36524) 1461
  have h₃ := Nat.div_add_mod (n % 146097 % 36524 % 1461) 365
  have b₀ : n % 146097 < 146097 := Nat.mod_lt _ (by decide)
  have b₁ : n % 146097 % 36524 < 36524 := Nat.mod_lt _ (by decide)
  have b₂ : n % 146097 % 36524 % 1461 < 1461 := Nat.mod_lt _ (by decide)
  have b₃ : n % 146097 % 36524 % 1461 % 365 < 365 := Nat.mod_lt _ (by decide)
  unfold yearOfDay
  dsimp only
  generalize n % 146097 % 36524 % 1461 / 365 = d at *
  generalize n % 146097 % 36524 % 1461 % 365 = e at *
  generalize n % 146097 % 36524 % 1461 = r₂ at *
  generalize n % 146097 % 36524 / 1461 = c at *
  generalize n % 146097 % 36524 = r₁ at *
  generalize n % 146097 / 36524 = b at *
  generalize n % 146097 = r₀ at *
  generalize n / 146097 = a at *
  split_ifs with hend
  · refine ⟨by omega, ?_⟩
    by_cases hb : b = 4
    · -- The last day of a cycle of 400 years.
      have hyear : a * 400 + b * 100 + c * 4 + d = a * 400 + 3 * 100 + 24 * 4 + 3 + 1 := by omega
      rw [hyear]
      refine lt_daysBeforeYear_of_leap (by omega) ?_ ?_
      · rw [isLeap_iff]
        omega
      · rw [@daysBeforeYear_cycles a 3 24 3 (by decide) (by decide) (by decide)]
        omega
    · -- The last day of a cycle of 4 years.
      have hd : d = 4 := by omega
      have hyear : a * 400 + b * 100 + c * 4 + d = a * 400 + b * 100 + c * 4 + 3 + 1 := by omega
      rw [hyear]
      refine lt_daysBeforeYear_of_leap (by omega) ?_ ?_
      · rw [isLeap_iff]
        omega
      · rw [daysBeforeYear_cycles a (by omega) (by omega) (by decide)]
        omega
  · have hcycles := @daysBeforeYear_cycles a b c d (by omega) (by omega) (by omega)
    have hnext := @daysBeforeYear_succ (a * 400 + b * 100 + c * 4 + d + 1) (by omega)
    have hdays := daysInYear_cases (a * 400 + b * 100 + c * 4 + d + 1)
    omega

lemma daysBeforeMonth_succ {year month : Nat} (h : 1 ≤ month) :
    daysBeforeMonth year (month + 1) = daysBeforeMonth year month + daysInMonth year month := by
  obtain ⟨m, rfl⟩ := Nat.exists_eq_add_of_le' h
  rfl

lemma daysBeforeMonth_mono {year a b : Nat} (h : a ≤ b) :
    daysBeforeMonth year a ≤ daysBeforeMonth year b := by
  induction h with
  | refl => exact le_rfl
  | @step b _ ih =>
      rcases Nat.eq_zero_or_pos b with rfl | hb
      · exact ih
      · rw [daysBeforeMonth_succ hb]
        omega

/-- The search for a month. -/
lemma monthDay_spec {year : Nat} (fuel : Nat) {month n : Nat} (hmonth : 1 ≤ month)
    (hfuel : month + fuel = 13)
    (hn : daysBeforeMonth year month + n < daysBeforeMonth year 13) :
    1 ≤ (monthDay year fuel month n).1 ∧ (monthDay year fuel month n).1 ≤ 12 ∧
      1 ≤ (monthDay year fuel month n).2 ∧
      (monthDay year fuel month n).2 ≤ daysInMonth year (monthDay year fuel month n).1 ∧
      daysBeforeMonth year (monthDay year fuel month n).1 + ((monthDay year fuel month n).2 - 1) =
        daysBeforeMonth year month + n := by
  induction fuel generalizing month n with
  | zero =>
      obtain rfl : month = 13 := by omega
      omega
  | succ fuel ih =>
      rw [monthDay]
      split_ifs with hlt
      · refine ⟨hmonth, by omega, ?_, ?_, ?_⟩
        · exact Nat.succ_pos n
        · exact hlt
        · rfl
      · have hnext := @daysBeforeMonth_succ year _ hmonth
        obtain ⟨h₁, h₂, h₃, h₄, h₅⟩ := @ih (month + 1) (n - daysInMonth year month)
          (by omega) (by omega) (by omega)
        exact ⟨h₁, h₂, h₃, h₄, by omega⟩

/-- The calendar of an instant names it. -/
lemma ofSeconds_spec (n : Nat) :
    (ofSeconds n).isReal = true ∧ (ofSeconds n).toSeconds = n := by
  obtain ⟨hyear, hfrom, hto⟩ := yearOfDay_spec (n / 86400)
  rw [daysBeforeYear_succ hyear, ← daysBeforeMonth_thirteen] at hto
  obtain ⟨h₁, h₂, h₃, h₄, h₅⟩ := @monthDay_spec (yearOfDay (n / 86400)) 12 1
    (n / 86400 - daysBeforeYear (yearOfDay (n / 86400))) le_rfl rfl
    (by change 0 + _ < _; omega)
  have hzero : daysBeforeMonth (yearOfDay (n / 86400)) 1 = 0 := rfl
  rw [hzero] at h₅
  have hdiv := Nat.div_add_mod n 86400
  have hmod : n % 86400 < 86400 := Nat.mod_lt _ (by decide)
  unfold ofSeconds
  dsimp only
  generalize yearOfDay (n / 86400) = year at *
  generalize monthDay year 12 1 (n / 86400 - daysBeforeYear year) = md at *
  constructor
  · refine decide_eq_true ⟨hyear, h₁, h₂, h₃, h₄, ?_, ?_, ?_⟩
    · change n % 86400 / 3600 < 24
      omega
    · change n % 86400 / 60 % 60 < 60
      omega
    · change n % 86400 % 60 < 60
      omega
  · change (daysBeforeYear year + daysBeforeMonth year md.1 + (md.2 - 1)) * 86400 +
      n % 86400 / 3600 * 3600 + n % 86400 / 60 % 60 * 60 + n % 86400 % 60 = n
    have hday : daysBeforeYear year + daysBeforeMonth year md.1 + (md.2 - 1) = n / 86400 := by omega
    rw [hday]
    omega

/-! ## The order of instants -/

/-- The number of a day since `0001-01-01`. -/
def dayNumber (t : DateTime) : Nat :=
  daysBeforeYear t.year + daysBeforeMonth t.year t.month + (t.day - 1)

/-- The seconds of a day that have passed. -/
def secondOfDay (t : DateTime) : Nat := t.hour * 3600 + t.minute * 60 + t.second

lemma toSeconds_eq (t : DateTime) : t.toSeconds = t.dayNumber * 86400 + t.secondOfDay := by
  unfold toSeconds dayNumber secondOfDay
  omega

lemma secondOfDay_lt {t : DateTime} (h : t.isReal = true) : t.secondOfDay < 86400 := by
  obtain ⟨-, -, -, -, -, hhour, hminute, hsecond⟩ := of_decide_eq_true h
  unfold secondOfDay
  omega

/-- A day lies in its month, and the month in its year. -/
lemma dayNumber_bounds {t : DateTime} (h : t.isReal = true) :
    daysBeforeYear t.year + daysBeforeMonth t.year t.month ≤ t.dayNumber ∧
      t.dayNumber < daysBeforeYear t.year + daysBeforeMonth t.year (t.month + 1) ∧
      t.dayNumber < daysBeforeYear (t.year + 1) := by
  obtain ⟨hyear, hmonth, hmonth', hday, hday', -⟩ := of_decide_eq_true h
  have hnext := @daysBeforeMonth_succ t.year _ hmonth
  have hlast : daysBeforeMonth t.year (t.month + 1) ≤ daysBeforeMonth t.year 13 :=
    daysBeforeMonth_mono (by omega)
  rw [daysBeforeYear_succ hyear, ← daysBeforeMonth_thirteen]
  unfold dayNumber
  omega

lemma daysBeforeYear_mono {a b : Nat} (ha : 1 ≤ a) (h : a ≤ b) :
    daysBeforeYear a ≤ daysBeforeYear b := by
  induction h with
  | refl => exact le_rfl
  | @step b hab ih =>
      rw [daysBeforeYear_succ (ha.trans hab)]
      omega

/-- A day is later when its year is. -/
lemma dayNumber_lt_of_year {t t' : DateTime} (h : t.isReal = true) (h' : t'.isReal = true)
    (hlt : t.year < t'.year) : t.dayNumber < t'.dayNumber := by
  have hmono : daysBeforeYear (t.year + 1) ≤ daysBeforeYear t'.year :=
    daysBeforeYear_mono (Nat.succ_pos t.year) hlt
  have hbounds := dayNumber_bounds h
  have hbounds' := dayNumber_bounds h'
  omega

/-- A day is later when its month is, in the same year. -/
lemma dayNumber_lt_of_month {t t' : DateTime} (h : t.isReal = true) (h' : t'.isReal = true)
    (hyear : t.year = t'.year) (hlt : t.month < t'.month) : t.dayNumber < t'.dayNumber := by
  have hmono : daysBeforeMonth t.year (t.month + 1) ≤ daysBeforeMonth t.year t'.month :=
    daysBeforeMonth_mono hlt
  have hbounds := dayNumber_bounds h
  have hbounds' := dayNumber_bounds h'
  rw [← hyear] at hbounds'
  omega

/-- **The order of instants is lexicographic** in year, month, day, hour, minute and second. -/
lemma lex_of_toSeconds_lt {t t' : DateTime} (h : t.isReal = true) (h' : t'.isReal = true)
    (hlt : t.toSeconds < t'.toSeconds) :
    t.year < t'.year ∨ t.year = t'.year ∧ (t.month < t'.month ∨ t.month = t'.month ∧
      (t.day < t'.day ∨ t.day = t'.day ∧ (t.hour < t'.hour ∨ t.hour = t'.hour ∧
        (t.minute < t'.minute ∨ t.minute = t'.minute ∧ t.second < t'.second)))) := by
  obtain ⟨-, -, -, hday, -, hhour, hminute, hsecond⟩ := of_decide_eq_true h
  obtain ⟨-, -, -, hday', -, hhour', hminute', hsecond'⟩ := of_decide_eq_true h'
  have hnumber : t.dayNumber ≤ t'.dayNumber := by
    have hclock' := secondOfDay_lt h'
    rw [toSeconds_eq, toSeconds_eq] at hlt
    omega
  rcases Nat.lt_trichotomy t.year t'.year with hyear | hyear | hyear
  · exact .inl hyear
  · refine .inr ⟨hyear, ?_⟩
    rcases Nat.lt_trichotomy t.month t'.month with hmonth | hmonth | hmonth
    · exact .inl hmonth
    · refine .inr ⟨hmonth, ?_⟩
      unfold toSeconds at hlt
      unfold dayNumber at hnumber
      rw [hyear, hmonth] at hlt hnumber
      omega
    · have hback := dayNumber_lt_of_month h' h hyear.symm hmonth
      omega
  · have hback := dayNumber_lt_of_year h' h hyear
    omega

/-- The calendar names an instant once. -/
lemma toSeconds_inj {t t' : DateTime} (h : t.isReal = true) (h' : t'.isReal = true)
    (heq : t.toSeconds = t'.toSeconds) : t = t' := by
  obtain ⟨-, -, -, hday, -, hhour, hminute, hsecond⟩ := of_decide_eq_true h
  obtain ⟨-, -, -, hday', -, hhour', hminute', hsecond'⟩ := of_decide_eq_true h'
  have hclock := secondOfDay_lt h
  have hclock' := secondOfDay_lt h'
  rw [toSeconds_eq, toSeconds_eq] at heq
  have hnumber : t.dayNumber = t'.dayNumber := by omega
  have htime : t.secondOfDay = t'.secondOfDay := by omega
  have hyear : t.year = t'.year := by
    rcases Nat.lt_trichotomy t.year t'.year with hlt | hsame | hlt
    · have := dayNumber_lt_of_year h h' hlt
      omega
    · exact hsame
    · have := dayNumber_lt_of_year h' h hlt
      omega
  have hmonth : t.month = t'.month := by
    rcases Nat.lt_trichotomy t.month t'.month with hlt | hsame | hlt
    · have := dayNumber_lt_of_month h h' hyear hlt
      omega
    · exact hsame
    · have := dayNumber_lt_of_month h' h hyear.symm hlt
      omega
  have hsame : t.day = t'.day := by
    unfold dayNumber at hnumber
    rw [hyear, hmonth] at hnumber
    omega
  unfold secondOfDay at htime
  have hhours : t.hour = t'.hour := by omega
  have hminutes : t.minute = t'.minute := by omega
  have hseconds : t.second = t'.second := by omega
  cases t
  cases t'
  simp_all only

/-! ## The order of texts -/

section texts

variable {α : Type} [LT α]

/-- The first difference decides. -/
lemma append_lt_append {a b : List α} (hlen : a.length = b.length) (h : a < b) (x y : List α) :
    a ++ x < b ++ y := by
  induction a generalizing b with
  | nil =>
      rw [List.length_nil, eq_comm, List.length_eq_zero_iff] at hlen
      subst hlen
      exact absurd h (List.not_lt_nil _)
  | cons c a ih =>
      cases b with
      | nil => cases hlen
      | cons d b =>
          rw [List.cons_append, List.cons_append, List.cons_lt_cons_iff]
          rw [List.cons_lt_cons_iff] at h
          rcases h with hcd | ⟨rfl, hab⟩
          · exact .inl hcd
          · exact .inr ⟨rfl, ih (Nat.succ.inj hlen) hab⟩

lemma append_lt_append_left {x y : List α} (a : List α) (h : x < y) : a ++ x < a ++ y := by
  induction a with
  | nil => exact h
  | cons c a ih =>
      rw [List.cons_append, List.cons_append, List.cons_lt_cons_iff]
      exact .inr ⟨rfl, ih⟩

end texts

lemma digitChar_lt {a b : Nat} (h : a < b) (hb : b < 10) : Nat.digitChar a < Nat.digitChar b := by
  have hall : ∀ b < 10, ∀ a < b, Nat.digitChar a < Nat.digitChar b := by decide
  exact hall b hb a h

lemma twoDigits_lt {a b : Nat} (h : a < b) (hb : b < 100) : twoDigits a < twoDigits b := by
  unfold twoDigits
  rw [List.cons_lt_cons_iff, List.cons_lt_cons_iff]
  by_cases hten : a / 10 = b / 10
  · refine .inr ⟨by rw [hten], .inl (digitChar_lt ?_ ?_)⟩
    · omega
    · omega
  · refine .inl (digitChar_lt ?_ ?_)
    · omega
    · omega

/-- A number of two digits, a separator and the rest. -/
lemma field_lt {a b : Nat} {x y : List Char} (hb : b < 100) (h : a < b ∨ a = b ∧ x < y) :
    twoDigits a ++ x < twoDigits b ++ y := by
  rcases h with hlt | ⟨rfl, hxy⟩
  · have hlen : (twoDigits a).length = (twoDigits b).length := rfl
    exact append_lt_append hlen (twoDigits_lt hlt hb) x y
  · exact append_lt_append_left _ hxy

/-- The text of a point in time, from its year on. -/
lemma toList_strftime (t : DateTime) : t.strftime.toList =
    twoDigits (t.year / 100) ++ (twoDigits (t.year % 100) ++ ('-' :: (twoDigits t.month ++
      ('-' :: (twoDigits t.day ++ ('T' :: (twoDigits t.hour ++ (':' :: (twoDigits t.minute ++
        (':' :: (twoDigits t.second ++ ['Z'])))))))))))  := by
  have hyear : twoDigits (t.year % 100) = twoDigits t.year := by
    unfold twoDigits
    rw [show t.year % 100 / 10 % 10 = t.year / 10 % 10 by omega,
      show t.year % 100 % 10 = t.year % 10 by omega]
  unfold strftime
  rw [String.toList_ofList, hyear]
  simp only [List.append_assoc, List.cons_append]

/-- **The texts of instants are ordered as the instants.** -/
lemma strftime_lt {t t' : DateTime} (h : t.isReal = true) (h' : t'.isReal = true)
    (hyear : t'.year < 10000) (hlt : t.toSeconds < t'.toSeconds) : t.strftime < t'.strftime := by
  obtain ⟨-, -, hmonth, -, hday, hhour, hminute, hsecond⟩ := of_decide_eq_true h'
  have hdays : daysInMonth t'.year t'.month ≤ 31 := by
    unfold daysInMonth
    split_ifs <;> omega
  have hcons : ∀ {c : Char} {x y : List Char}, x < y → c :: x < c :: y :=
    fun hxy => List.cons_lt_cons_iff.mpr (.inr ⟨rfl, hxy⟩)
  rw [String.lt_iff, toList_strftime, toList_strftime]
  have hlex := lex_of_toSeconds_lt h h' hlt
  -- The comparison goes field by field, as the lexicographic order does.
  have hfields : ∀ {x y : List Char}, t.year < t'.year ∨ t.year = t'.year ∧ x < y →
      twoDigits (t.year / 100) ++ (twoDigits (t.year % 100) ++ x) <
        twoDigits (t'.year / 100) ++ (twoDigits (t'.year % 100) ++ y) := by
    intro x y hxy
    refine field_lt (by omega) ?_
    by_cases hcentury : t.year / 100 = t'.year / 100
    · refine .inr ⟨hcentury, field_lt (by omega) ?_⟩
      rcases hxy with hlt | ⟨heq, hxy⟩
      · exact .inl (by omega)
      · exact .inr ⟨by rw [heq], hxy⟩
    · exact .inl (by omega)
  refine hfields (hlex.imp_right fun ⟨hyear, hlex⟩ => ⟨hyear, hcons (field_lt (by omega) ?_)⟩)
  refine hlex.imp_right fun ⟨hmonth, hlex⟩ => ⟨hmonth, hcons (field_lt (by omega) ?_)⟩
  refine hlex.imp_right fun ⟨hday, hlex⟩ => ⟨hday, hcons (field_lt (by omega) ?_)⟩
  refine hlex.imp_right fun ⟨hhour, hlex⟩ => ⟨hhour, hcons (field_lt (by omega) ?_)⟩
  refine hlex.imp_right fun ⟨hminute, hlex⟩ => ⟨hminute, hcons (field_lt (by omega) (.inl hlex))⟩

/-! ## Reading a timestamp back -/

lemma digitChar_spec {d : Nat} (h : d < 10) :
    (Nat.digitChar d).isDigit = true ∧ digitValue (Nat.digitChar d) = d ∧
      Nat.digitChar d ≠ ' ' := by
  have hall : ∀ d < 10, (Nat.digitChar d).isDigit = true ∧ digitValue (Nat.digitChar d) = d ∧
      Nat.digitChar d ≠ ' ' := by decide
  exact hall d h

lemma readNumber_digits {c d : Char} (hc : c.isDigit = true) (hd : d.isDigit = true)
    (rest : List Char) :
    readNumber (c :: d :: rest) = some (digitValue c * 10 + digitValue d, rest) := by
  rw [readNumber, if_pos hc, if_pos hd]

lemma readYear_digits {a b c d : Char} (ha : a.isDigit = true) (hb : b.isDigit = true)
    (hc : c.isDigit = true) (hd : d.isDigit = true) (rest : List Char) :
    readYear (a :: b :: c :: d :: rest) =
      some (digitValue a * 1000 + digitValue b * 100 + digitValue c * 10 + digitValue d, rest) := by
  simp only [readYear, ha, hb, hc, hd, Bool.and_self, if_true]

lemma readNumber_twoDigits {n : Nat} (h : n < 100) (rest : List Char) :
    readNumber (twoDigits n ++ rest) = some (n, rest) := by
  obtain ⟨htens, hvalue, -⟩ := digitChar_spec (show n / 10 % 10 < 10 by omega)
  obtain ⟨hones, hvalue', -⟩ := digitChar_spec (show n % 10 < 10 by omega)
  unfold twoDigits
  rw [List.cons_append, List.cons_append, List.nil_append, readNumber_digits htens hones, hvalue,
    hvalue']
  congr 2
  omega

lemma readDay_twoDigits {n : Nat} (h : n < 100) (rest : List Char) :
    readDay (twoDigits n ++ rest) = some (n, rest) := by
  rw [← readNumber_twoDigits h rest]
  have hblank := (digitChar_spec (show n / 10 % 10 < 10 by omega)).2.2
  unfold readDay
  split
  · next c rest' heq =>
    unfold twoDigits at heq
    rw [List.cons_append] at heq
    exact absurd (List.cons.inj heq).1 hblank
  · rfl

lemma readYear_twoDigits {year : Nat} (h : year < 10000) (rest : List Char) :
    readYear (twoDigits (year / 100) ++ (twoDigits (year % 100) ++ rest)) = some (year, rest) := by
  obtain ⟨h₁, v₁, -⟩ := digitChar_spec (show year / 100 / 10 % 10 < 10 by omega)
  obtain ⟨h₂, v₂, -⟩ := digitChar_spec (show year / 100 % 10 < 10 by omega)
  obtain ⟨h₃, v₃, -⟩ := digitChar_spec (show year % 100 / 10 % 10 < 10 by omega)
  obtain ⟨h₄, v₄, -⟩ := digitChar_spec (show year % 100 % 10 < 10 by omega)
  unfold twoDigits
  rw [List.cons_append, List.cons_append, List.nil_append, List.cons_append, List.cons_append,
    List.nil_append, readYear_digits h₁ h₂ h₃ h₄, v₁, v₂, v₃, v₄]
  congr 2
  omega

/-- **A timestamp is read back as the point in time it was written from.** -/
lemma strptime_strftime {t : DateTime} (h : t.isReal = true) (hyear : t.year < 10000) :
    strptime t.strftime = some t := by
  obtain ⟨-, -, hmonth, -, hday, hhour, hminute, hsecond⟩ := of_decide_eq_true h
  have hdays : daysInMonth t.year t.month ≤ 31 := by
    unfold daysInMonth
    split_ifs <;> omega
  have hchar : ∀ (c : Char) (rest : List Char), readChar c (c :: rest) = some rest :=
    fun c rest => if_pos (.inl rfl)
  have hread : readFormat format t.strftime.toList =
      some [t.year, t.month, t.day, t.hour, t.minute, t.second] := by
    rw [toList_strftime]
    simp only [format, readFormat, readYear_twoDigits hyear, hchar,
      readNumber_twoDigits (show t.month < 100 by omega),
      readDay_twoDigits (show t.day < 100 by omega),
      readNumber_twoDigits (show t.hour < 100 by omega),
      readNumber_twoDigits (show t.minute < 100 by omega),
      readNumber_twoDigits (show t.second < 100 by omega), Option.bind_some, Option.map_some,
      List.isEmpty_nil, if_true]
  unfold strptime
  rw [hread]
  exact if_pos h

/-! ## Timestamps -/

/-- A text that `strftime` writes. -/
def IsStamp (text : String) : Prop :=
  ∃ t : DateTime, t.isReal = true ∧ t.year < 10000 ∧ text = t.strftime

/-- The instant that a text names, in seconds. -/
def seconds (text : String) : Nat := (strptime text).elim 0 toSeconds

lemma seconds_strftime {t : DateTime} (h : t.isReal = true) (hyear : t.year < 10000) :
    seconds t.strftime = t.toSeconds := by
  unfold seconds
  rw [strptime_strftime h hyear]
  rfl

/-- **The order of timestamps is the order of instants.** -/
lemma IsStamp.le_iff {a b : String} (ha : IsStamp a) (hb : IsStamp b) :
    a ≤ b ↔ seconds a ≤ seconds b := by
  obtain ⟨t, ht, hyear, rfl⟩ := ha
  obtain ⟨t', ht', hyear', rfl⟩ := hb
  rw [seconds_strftime ht hyear, seconds_strftime ht' hyear']
  constructor
  · intro hle
    by_contra hnot
    exact String.not_le.mpr (strftime_lt ht' ht hyear (by omega)) hle
  · intro hle
    rcases Nat.lt_or_eq_of_le hle with hlt | heq
    · exact String.not_lt.mp fun hback => String.lt_asymm hback (strftime_lt ht ht' hyear' hlt)
    · obtain rfl := toSeconds_inj ht ht' heq
      exact String.le_refl _

/-- The text of an earlier instant. -/
lemma isStamp_ofSeconds {t : DateTime} (h : t.isReal = true) (hyear : t.year < 10000) {n : Nat}
    (hn : n ≤ t.toSeconds) :
    IsStamp (ofSeconds n).strftime ∧ seconds (ofSeconds n).strftime = n := by
  obtain ⟨hreal, hseconds⟩ := ofSeconds_spec n
  have hbound : (ofSeconds n).year < 10000 := by
    by_contra hnot
    have hlater := dayNumber_lt_of_year h hreal (by omega)
    have hclock := secondOfDay_lt h
    rw [toSeconds_eq] at hseconds hn
    omega
  exact ⟨⟨_, hreal, hbound, rfl⟩, (seconds_strftime hreal hbound).trans hseconds⟩

lemma digitChar_digitValue {c : Char} (h : c.isDigit = true) : Nat.digitChar (digitValue c) = c := by
  have hrange : 48 ≤ c.toNat ∧ c.toNat ≤ 57 := by
    simp only [Char.isDigit, Bool.and_eq_true, decide_eq_true_eq] at h
    exact ⟨h.1, h.2⟩
  have hchar : c = Char.ofNat c.toNat := (Char.ofNat_toNat c).symm
  unfold digitValue
  generalize c.toNat = n at *
  subst hchar
  obtain ⟨hlow, hhigh⟩ := hrange
  interval_cases n <;> rfl

lemma digitValue_lt {c : Char} (h : c.isDigit = true) : digitValue c < 10 := by
  simp only [Char.isDigit, Bool.and_eq_true, decide_eq_true_eq] at h
  have hhigh : c.toNat ≤ 57 := h.2
  unfold digitValue
  change c.toNat - 48 < 10
  omega

/-- Two digits, read and written. -/
lemma twoDigits_digitValue {c d : Char} (hc : c.isDigit = true) (hd : d.isDigit = true) :
    twoDigits (digitValue c * 10 + digitValue d) = [c, d] := by
  have htens := digitValue_lt hc
  have hones := digitValue_lt hd
  unfold twoDigits
  rw [show (digitValue c * 10 + digitValue d) / 10 % 10 = digitValue c by omega,
    show (digitValue c * 10 + digitValue d) % 10 = digitValue d by omega,
    digitChar_digitValue hc, digitChar_digitValue hd]

/-- **A timestamp of full width is the text of what is read from it.** -/
lemma isStamp_of_strptime {y₁ y₂ y₃ y₄ m₁ m₂ d₁ d₂ h₁ h₂ i₁ i₂ c₁ c₂ : Char} {t : DateTime}
    {text : String} (htext : text.toList = [y₁, y₂, y₃, y₄, '-', m₁, m₂, '-', d₁, d₂, 'T', h₁, h₂,
      ':', i₁, i₂, ':', c₁, c₂, 'Z'])
    (hdigits : [y₁, y₂, y₃, y₄, m₁, m₂, d₁, d₂, h₁, h₂, i₁, i₂, c₁, c₂].all (·.isDigit) = true)
    (h : strptime text = some t) : IsStamp text := by
  simp only [List.all_cons, List.all_nil, Bool.and_true, Bool.and_eq_true] at hdigits
  obtain ⟨hy₁, hy₂, hy₃, hy₄, hm₁, hm₂, hd₁, hd₂, hh₁, hh₂, hi₁, hi₂, hc₁, hc₂⟩ := hdigits
  have hchar : ∀ (c : Char) (rest : List Char), readChar c (c :: rest) = some rest :=
    fun c rest => if_pos (.inl rfl)
  have hday : ∀ rest, readDay (d₁ :: rest) = readNumber (d₁ :: rest) := by
    intro rest
    unfold readDay
    split
    · next heq =>
      rw [(List.cons.inj heq).1] at hd₁
      exact absurd hd₁ (by decide)
    · rfl
  have hread : readFormat format text.toList =
      some [digitValue y₁ * 1000 + digitValue y₂ * 100 + digitValue y₃ * 10 + digitValue y₄,
        digitValue m₁ * 10 + digitValue m₂, digitValue d₁ * 10 + digitValue d₂,
        digitValue h₁ * 10 + digitValue h₂, digitValue i₁ * 10 + digitValue i₂,
        digitValue c₁ * 10 + digitValue c₂] := by
    rw [htext]
    simp only [format, readFormat, readYear_digits hy₁ hy₂ hy₃ hy₄, readNumber_digits hm₁ hm₂, hday,
      readNumber_digits hd₁ hd₂, readNumber_digits hh₁ hh₂, readNumber_digits hi₁ hi₂,
      readNumber_digits hc₁ hc₂, hchar, Option.bind_some, Option.map_some, List.isEmpty_nil, if_true]
  unfold strptime at h
  rw [hread] at h
  dsimp only at h
  split_ifs at h with hreal
  have hv₁ := digitValue_lt hy₁
  have hv₂ := digitValue_lt hy₂
  have hv₃ := digitValue_lt hy₃
  have hv₄ := digitValue_lt hy₄
  refine ⟨_, hreal, ?_, String.ext ?_⟩
  · dsimp only
    omega
  · rw [toList_strftime, htext]
    dsimp only
    rw [show (digitValue y₁ * 1000 + digitValue y₂ * 100 + digitValue y₃ * 10 + digitValue y₄) / 100 =
        digitValue y₁ * 10 + digitValue y₂ by omega,
      show (digitValue y₁ * 1000 + digitValue y₂ * 100 + digitValue y₃ * 10 + digitValue y₄) % 100 =
        digitValue y₃ * 10 + digitValue y₄ by omega,
      twoDigits_digitValue hy₁ hy₂, twoDigits_digitValue hy₃ hy₄, twoDigits_digitValue hm₁ hm₂,
      twoDigits_digitValue hd₁ hd₂, twoDigits_digitValue hh₁ hh₂, twoDigits_digitValue hi₁ hi₂,
      twoDigits_digitValue hc₁ hc₂]
    rfl

end DateTime

end AgentRuntimeOps.Lib
