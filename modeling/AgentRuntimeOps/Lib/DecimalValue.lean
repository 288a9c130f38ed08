import AgentRuntimeOps.Lib.Decimal
import Mathlib.Algebra.Order.Floor.Semifield
import Mathlib.Data.Int.Log
import Mathlib.Data.Rat.Floor
import Mathlib.Tactic

/-!
# Decimals as rational numbers

What the operations of the `decimal` module do to the size of a number: the exact result, rounded to
the context.  `contextRound` is that rounding on rational numbers; it leaves alone what has at most
28 digits.
-/

namespace AgentRuntimeOps.Lib

namespace Decimal

/-! ## Rounding of rational numbers -/

/-- The nearest integer, the upper one in the middle. -/
def halfUp (x : ℚ) : ℕ := ⌊x + 1 / 2⌋₊

/-- The nearest integer, the even one in the middle. -/
def halfEven (x : ℚ) : ℕ :=
  if x - ⌊x⌋₊ < 1 / 2 ∨ x - ⌊x⌋₊ = 1 / 2 ∧ ⌊x⌋₊ % 2 = 0 then ⌊x⌋₊ else ⌊x⌋₊ + 1

/-- The exponent of the last digit that the context keeps. -/
def quantum (x : ℚ) : ℤ := max (Int.log 10 x - 27) tinyExponent

/-- The value in the context. -/
def contextRound (x : ℚ) : ℚ := halfEven (x / 10 ^ quantum x) * 10 ^ quantum x

lemma floor_div_pow (n k : ℕ) : ⌊(n : ℚ) / 10 ^ k⌋₊ = n / 10 ^ k := by
  have hcast : ((10 : ℚ) ^ k) = ((10 ^ k : ℕ) : ℚ) := by push_cast; rfl
  rw [hcast]
  exact Nat.floor_div_eq_div n (10 ^ k)

/-- What is left of a quotient. -/
lemma div_sub_floor (n k : ℕ) :
    (n : ℚ) / 10 ^ k - ⌊(n : ℚ) / 10 ^ k⌋₊ = (n % 10 ^ k : ℕ) / 10 ^ k := by
  have hpos : (0 : ℚ) < 10 ^ k := by positivity
  have hdiv : (n : ℚ) = 10 ^ k * (n / 10 ^ k : ℕ) + (n % 10 ^ k : ℕ) := by
    have h := Nat.div_add_mod n (10 ^ k)
    exact_mod_cast h.symm
  rw [floor_div_pow, eq_div_iff hpos.ne', sub_mul, div_mul_cancel₀ _ hpos.ne']
  linarith

/-- The digits that are dropped, against one half. -/
lemma rest_lt_iff (n k : ℕ) :
    ((n % 10 ^ k : ℕ) : ℚ) / 10 ^ k < 1 / 2 ↔ 2 * (n % 10 ^ k) < 10 ^ k := by
  have hpos : (0 : ℚ) < 10 ^ k := by positivity
  rw [div_lt_iff₀ hpos]
  constructor
  · intro h
    have h' : (2 : ℚ) * (n % 10 ^ k : ℕ) < 10 ^ k := by linarith
    exact_mod_cast h'
  · intro h
    have h' : (2 : ℚ) * (n % 10 ^ k : ℕ) < 10 ^ k := by exact_mod_cast h
    linarith

lemma rest_eq_iff (n k : ℕ) :
    ((n % 10 ^ k : ℕ) : ℚ) / 10 ^ k = 1 / 2 ↔ 2 * (n % 10 ^ k) = 10 ^ k := by
  have hpos : (0 : ℚ) < 10 ^ k := by positivity
  rw [div_eq_iff hpos.ne']
  constructor
  · intro h
    have h' : (2 : ℚ) * (n % 10 ^ k : ℕ) = 10 ^ k := by linarith
    exact_mod_cast h'
  · intro h
    have h' : (2 : ℚ) * (n % 10 ^ k : ℕ) = 10 ^ k := by exact_mod_cast h
    linarith

lemma roundedShift_halfEven (n k : ℕ) :
    roundedShift .halfEven n k = halfEven ((n : ℚ) / 10 ^ k) := by
  unfold halfEven roundedShift
  rw [div_sub_floor, floor_div_pow]
  simp only [rest_lt_iff, rest_eq_iff]

lemma roundedShift_halfUp (n k : ℕ) : roundedShift .halfUp n k = halfUp ((n : ℚ) / 10 ^ k) := by
  have hpos : (0 : ℚ) < 10 ^ k := by positivity
  have hrest := div_sub_floor n k
  have hlt : ((n % 10 ^ k : ℕ) : ℚ) / 10 ^ k < 1 := by
    rw [div_lt_one hpos]
    exact_mod_cast Nat.mod_lt n (by positivity)
  have hle : 0 ≤ ((n % 10 ^ k : ℕ) : ℚ) / 10 ^ k := by positivity
  rw [floor_div_pow] at hrest
  unfold halfUp roundedShift
  dsimp only
  by_cases hhalf : 10 ^ k ≤ 2 * (n % 10 ^ k)
  · rw [if_pos hhalf, eq_comm, Nat.floor_eq_iff (by positivity)]
    have hge := not_lt.mp ((rest_lt_iff n k).not.mpr (not_lt.mpr hhalf))
    push_cast
    constructor
    · linarith
    · linarith
  · rw [if_neg hhalf, eq_comm, Nat.floor_eq_iff (by positivity)]
    have hless := (rest_lt_iff n k).mpr (not_le.mp hhalf)
    constructor
    · linarith
    · linarith

lemma halfEven_natCast (n : ℕ) : halfEven n = n := by
  unfold halfEven
  rw [Nat.floor_natCast, sub_self]
  exact if_pos (.inl (by norm_num))

lemma halfUp_natCast (n : ℕ) : halfUp n = n := by
  unfold halfUp
  rw [Nat.floor_eq_iff (by positivity)]
  constructor
  · linarith
  · linarith

lemma halfUp_mono {x y : ℚ} (h : x ≤ y) : halfUp x ≤ halfUp y :=
  Nat.floor_mono (by linarith)

lemma halfUp_le (x : ℚ) (h : 0 ≤ x) : (halfUp x : ℚ) ≤ x + 1 / 2 := Nat.floor_le (by linarith)

lemma le_halfUp (x : ℚ) : x - 1 / 2 ≤ halfUp x := by
  have h := Nat.lt_floor_add_one (x + 1 / 2)
  unfold halfUp
  linarith

lemma halfEven_le_floor_add_one (x : ℚ) : halfEven x ≤ ⌊x⌋₊ + 1 := by
  unfold halfEven
  split_ifs
  · exact Nat.le_succ _
  · exact le_rfl

lemma floor_le_halfEven (x : ℚ) : ⌊x⌋₊ ≤ halfEven x := by
  unfold halfEven
  split_ifs
  · exact le_rfl
  · exact Nat.le_succ _

lemma halfEven_le_two_mul {x : ℚ} (h : 0 ≤ x) : (halfEven x : ℚ) ≤ 2 * x := by
  have hfloor := Nat.floor_le h
  unfold halfEven
  split_ifs with hlow
  · linarith
  · have hhigh : 1 / 2 ≤ x - ⌊x⌋₊ := by
      by_contra hlt
      exact hlow (.inl (not_le.mp hlt))
    push_cast
    have : (0 : ℚ) ≤ ⌊x⌋₊ := by positivity
    linarith

/-! ## The context on rational numbers -/

lemma contextRound_nonneg (x : ℚ) : 0 ≤ contextRound x := by
  unfold contextRound
  positivity

@[simp] lemma contextRound_zero : contextRound 0 = 0 := by
  have hzero := halfEven_natCast 0
  unfold contextRound
  rw [zero_div, show (0 : ℚ) = ((0 : ℕ) : ℚ) from Nat.cast_zero.symm, hzero]
  simp

lemma contextRound_le_two_mul {x : ℚ} (h : 0 ≤ x) : contextRound x ≤ 2 * x := by
  have hpos : (0 : ℚ) < 10 ^ quantum x := by positivity
  have hle := halfEven_le_two_mul (x := x / 10 ^ quantum x) (by positivity)
  calc contextRound x ≤ 2 * (x / 10 ^ quantum x) * 10 ^ quantum x :=
        mul_le_mul_of_nonneg_right hle hpos.le
    _ = 2 * x := by rw [mul_assoc, div_mul_cancel₀ _ hpos.ne']

/-- An integer multiple of the quantum is kept. -/
lemma contextRound_of_multiple {x : ℚ} {n : ℕ} {k : ℤ} (hx : x = n * 10 ^ k) (hk : quantum x ≤ k) :
    contextRound x = x := by
  have hpos : (0 : ℚ) < 10 ^ quantum x := by positivity
  have hint : x / 10 ^ quantum x = ((n * 10 ^ (k - quantum x).toNat : ℕ) : ℚ) := by
    rw [div_eq_iff hpos.ne']
    push_cast
    rw [← zpow_natCast, Int.toNat_of_nonneg (by omega), mul_assoc, ← zpow_add₀ (by norm_num),
      sub_add_cancel]
    exact hx
  unfold contextRound
  rw [hint, halfEven_natCast, ← hint, div_mul_cancel₀ _ hpos.ne']

/-- A number of at most 28 digits, none of them too small for the context. -/
lemma quantum_le {n : ℕ} {k : ℤ} (hpos : 0 < n) (hn : n < 10 ^ precision)
    (hk : tinyExponent ≤ k) : quantum (n * 10 ^ k) ≤ k := by
  have hval : (0 : ℚ) < n * 10 ^ k := by positivity
  have hlt : (n : ℚ) * 10 ^ k < (10 : ℕ) ^ (28 + k) := by
    have hn' : (n : ℚ) < 10 ^ 28 := by exact_mod_cast hn
    push_cast
    rw [zpow_add₀ (by norm_num)]
    exact mul_lt_mul_of_pos_right (by exact_mod_cast hn') (by positivity)
  have hlog := (Int.lt_zpow_iff_log_lt (b := 10) (by norm_num) hval).mp hlt
  unfold quantum
  refine max_le ?_ hk
  omega

/-- The rounding leaves alone what the context can hold. -/
theorem contextRound_of_digits {n : ℕ} {k : ℤ} (hn : n < 10 ^ precision) (hk : tinyExponent ≤ k) :
    contextRound (n * 10 ^ k) = n * 10 ^ k := by
  rcases Nat.eq_zero_or_pos n with rfl | hpos
  · rw [Nat.cast_zero, zero_mul, contextRound_zero]
  · exact contextRound_of_multiple rfl (quantum_le hpos hn hk)

/-- Rounding does not go below the first digit. -/
lemma zpow_le_contextRound {x : ℚ} {k : ℤ} (hk : quantum x ≤ k)
    (h : (10 : ℚ) ^ k ≤ x) : (10 : ℚ) ^ k ≤ contextRound x := by
  have hpos : (0 : ℚ) < 10 ^ quantum x := by positivity
  have hfloor : 10 ^ (k - quantum x).toNat ≤ ⌊x / 10 ^ quantum x⌋₊ := by
    refine Nat.le_floor ?_
    push_cast
    rw [← zpow_natCast, Int.toNat_of_nonneg (by omega), le_div_iff₀ hpos,
      ← zpow_add₀ (by norm_num), sub_add_cancel]
    exact h
  have hround := hfloor.trans (floor_le_halfEven _)
  unfold contextRound
  calc (10 : ℚ) ^ k = (10 ^ (k - quantum x).toNat : ℕ) * 10 ^ quantum x := by
        push_cast
        rw [← zpow_natCast, Int.toNat_of_nonneg (by omega), ← zpow_add₀ (by norm_num),
          sub_add_cancel]
    _ ≤ _ := mul_le_mul_of_nonneg_right (by exact_mod_cast hround) hpos.le

/-- A number that is large stays large. -/
lemma le_contextRound {x : ℚ} {j : ℤ} (hj : tinyExponent ≤ j) (h : (10 : ℚ) ^ j ≤ x) :
    (10 : ℚ) ^ j ≤ contextRound x := by
  have hpos : 0 < x := lt_of_lt_of_le (by positivity) h
  have hlog : j ≤ Int.log 10 x := by
    refine (Int.zpow_le_iff_le_log (b := 10) (by norm_num) hpos).mp ?_
    exact_mod_cast h
  have hself : (10 : ℚ) ^ Int.log 10 x ≤ x := by
    exact_mod_cast Int.zpow_log_le_self (b := 10) (r := x) (by norm_num) hpos
  have hquantum : quantum x ≤ Int.log 10 x := by
    unfold quantum
    exact max_le (by omega) (hj.trans hlog)
  exact (zpow_le_zpow_right₀ (by norm_num) hlog).trans (zpow_le_contextRound hquantum hself)

/-! ## Numbers -/

/-- The size of a number. -/
def magnitude : Decimal → ℚ
  | .finite _ m e => m * 10 ^ e
  | _ => 0

/-- A finite number that is not negative; a negative zero is none of the negative numbers. -/
def IsAmount : Decimal → Prop
  | .finite s m _ => s = false ∨ m = 0
  | _ => False

/-- A finite number in the context. -/
def InContext : Decimal → Prop
  | .finite _ m e => m < 10 ^ precision ∧ tinyExponent ≤ e
  | _ => False

lemma lt_pow_digitCount (n : ℕ) : n < 10 ^ digitCount n := Nat.lt_pow_succ_log_self (by norm_num) n

lemma digitCount_le_iff {n k : ℕ} (hk : 0 < k) : digitCount n ≤ k ↔ n < 10 ^ k := by
  unfold digitCount
  constructor
  · intro h
    exact (lt_pow_digitCount n).trans_le (Nat.pow_le_pow_right (by norm_num) h)
  · intro h
    rcases Nat.eq_zero_or_pos n with rfl | hpos
    · rw [Nat.log_zero_right]
      omega
    · exact Nat.log_lt_of_lt_pow hpos.ne' h

/-- The exponent of the first digit. -/
lemma log_value {n : ℕ} (hn : 0 < n) (e : ℤ) :
    Int.log 10 ((n : ℚ) * 10 ^ e) = (digitCount n : ℤ) - 1 + e := by
  have hval : (0 : ℚ) < n * 10 ^ e := by positivity
  have hcount : 1 ≤ digitCount n := Nat.succ_pos _
  have hlow : 10 ^ (digitCount n - 1) ≤ n := Nat.pow_log_le_self 10 hn.ne'
  have hhigh := lt_pow_digitCount n
  have hten : ((10 : ℕ) : ℚ) = 10 := by norm_num
  refine le_antisymm (Int.lt_add_one_iff.mp ?_) ?_
  · refine (Int.lt_zpow_iff_log_lt (b := 10) (by norm_num) hval).mp ?_
    rw [hten, show (digitCount n : ℤ) - 1 + e + 1 = digitCount n + e by ring,
      zpow_add₀ (by norm_num), zpow_natCast]
    exact mul_lt_mul_of_pos_right (by exact_mod_cast hhigh) (by positivity)
  · refine (Int.zpow_le_iff_le_log (b := 10) (by norm_num) hval).mp ?_
    rw [hten, zpow_add₀ (by norm_num),
      show (digitCount n : ℤ) - 1 = (digitCount n - 1 : ℕ) by omega, zpow_natCast]
    exact mul_le_mul_of_nonneg_right (by exact_mod_cast hlow) (by positivity)

/-- `_fix` rounds to the context, and fails exactly where the result is too large for it. -/
theorem fix_spec (s : Bool) (n : ℕ) (e : ℤ) :
    (10 ^ (1000000 : ℤ) ≤ contextRound (n * 10 ^ e) ∧ fix s n e = .error .overflow) ∨
      (contextRound (n * 10 ^ e) < 10 ^ (1000000 : ℤ) ∧ ∃ m k, fix s n e = .ok (.finite s m k) ∧
        (m : ℚ) * 10 ^ k = contextRound (n * 10 ^ e) ∧ m < 10 ^ precision ∧ tinyExponent ≤ k) := by
  rcases Nat.eq_zero_or_pos n with rfl | hn
  · right
    rw [Nat.cast_zero, zero_mul, contextRound_zero]
    refine ⟨by positivity, 0, _, if_pos rfl, by simp, by decide, ?_⟩
    unfold tinyExponent maxExponent
    omega
  have hval : (0 : ℚ) < n * 10 ^ e := by positivity
  have hlog := log_value hn e
  have hquantum : quantum (n * 10 ^ e) = max ((digitCount n : ℤ) + e - precision) tinyExponent := by
    unfold quantum precision
    rw [hlog]
    congr 1
    push_cast
    ring
  have hle := Int.zpow_log_le_self (b := 10) (by norm_num) hval
  have hten : ((10 : ℕ) : ℚ) = 10 := by norm_num
  rw [hten, hlog] at hle
  unfold fix
  rw [if_neg hn.ne']
  dsimp only
  by_cases hover : topExponent < (digitCount n : ℤ) + e - precision
  · left
    rw [if_pos hover]
    refine ⟨?_, rfl⟩
    unfold topExponent precision at hover
    push_cast at hover
    refine (zpow_le_zpow_right₀ (by norm_num) (show (1000000 : ℤ) ≤ (digitCount n : ℤ) - 1 + e by
      omega)).trans (zpow_le_contextRound ?_ hle)
    rw [hquantum]
    unfold tinyExponent precision
    push_cast
    omega
  rw [if_neg hover, ← hquantum]
  have hlt := Int.lt_zpow_succ_log_self (b := 10) (by norm_num) ((n : ℚ) * 10 ^ e)
  rw [hten, hlog, sub_add_eq_add_sub, sub_add_cancel] at hlt
  have hupper : (digitCount n : ℤ) + e ≤ 1000000 := by
    unfold topExponent precision at hover
    push_cast at hover
    omega
  have hqupper : quantum (n * 10 ^ e) ≤ topExponent := by
    rw [hquantum]
    refine max_le (not_lt.mp hover) ?_
    decide
  have hqlower : (digitCount n : ℤ) + e - 28 ≤ quantum (n * 10 ^ e) := by
    rw [hquantum]
    exact le_max_left _ _
  have htiny : tinyExponent ≤ quantum (n * 10 ^ e) := le_max_right _ _
  generalize hq : quantum ((n : ℚ) * 10 ^ e) = q at *
  by_cases hexact : q ≤ e
  · right
    have hkept : contextRound ((n : ℚ) * 10 ^ e) = n * 10 ^ e :=
      contextRound_of_multiple rfl (hq.le.trans hexact)
    rw [hkept, if_pos hexact]
    refine ⟨hlt.trans_le (zpow_le_zpow_right₀ (by norm_num) hupper), n, e, rfl, rfl, ?_,
      htiny.trans hexact⟩
    exact (digitCount_le_iff (by decide)).mp (by unfold precision; omega)
  rw [if_neg hexact]
  -- the digits that are kept
  set rounded := rescale .halfEven n e q with hrounded
  have hpos : (0 : ℚ) < 10 ^ q := by positivity
  have hshift : (n : ℚ) / 10 ^ (q - e).toNat = n * 10 ^ e / 10 ^ q := by
    rw [← zpow_natCast, Int.toNat_of_nonneg (by omega), zpow_sub₀ (by norm_num), div_div_eq_mul_div]
  have hvalue : contextRound ((n : ℚ) * 10 ^ e) = rounded * 10 ^ q := by
    unfold contextRound
    rw [hq, hrounded, rescale, if_neg hexact, roundedShift_halfEven, hshift]
  have hsize : rounded ≤ 10 ^ precision := by
    rw [hrounded, rescale, if_neg hexact, roundedShift_halfEven, hshift]
    refine (halfEven_le_floor_add_one _).trans (Nat.succ_le_of_lt ?_)
    rw [Nat.floor_lt (by positivity), div_lt_iff₀ hpos]
    refine hlt.trans_le ?_
    rw [show ((10 ^ precision : ℕ) : ℚ) = 10 ^ (28 : ℤ) by unfold precision; norm_num,
      ← zpow_add₀ (by norm_num)]
    exact zpow_le_zpow_right₀ (by norm_num) (by omega)
  rw [hvalue]
  by_cases hcarry : precision < digitCount rounded
  · have hfull : rounded = 10 ^ precision :=
      le_antisymm hsize (not_lt.mp fun h => absurd hcarry
        (not_lt.mpr ((digitCount_le_iff (by decide)).mpr h)))
    rw [if_pos hcarry, hfull]
    have hcast : (((10 ^ precision : ℕ)) : ℚ) * 10 ^ q = 10 ^ (28 + q) := by
      unfold precision
      push_cast
      rw [zpow_add₀ (by norm_num)]
      norm_num
    by_cases htop : topExponent < q + 1
    · left
      rw [if_pos htop, hcast]
      unfold topExponent at htop
      exact ⟨zpow_le_zpow_right₀ (by norm_num) (by omega), rfl⟩
    · right
      rw [if_neg htop, hcast]
      unfold topExponent at htop
      refine ⟨zpow_lt_zpow_right₀ (by norm_num) (by omega), 10 ^ precision / 10, q + 1, rfl, ?_,
        by decide, by omega⟩
      rw [show ((10 ^ precision / 10 : ℕ) : ℚ) = 10 ^ (27 : ℤ) by unfold precision; norm_num,
        ← zpow_add₀ (by norm_num)]
      congr 1
      ring
  · right
    have hsmall : rounded < 10 ^ precision :=
      (digitCount_le_iff (by decide)).mp (not_lt.mp hcarry)
    rw [if_neg hcarry]
    refine ⟨?_, rounded, q, rfl, rfl, hsmall, htiny⟩
    have hcast : (rounded : ℚ) < 10 ^ (28 : ℤ) := by exact_mod_cast hsmall
    unfold topExponent at hqupper
    calc (rounded : ℚ) * 10 ^ q < 10 ^ (28 : ℤ) * 10 ^ q := mul_lt_mul_of_pos_right hcast hpos
      _ = 10 ^ (28 + q) := (zpow_add₀ (by norm_num) _ _).symm
      _ ≤ 10 ^ (1000000 : ℤ) := zpow_le_zpow_right₀ (by norm_num) (by omega)

/-! ## Operations on amounts -/

/-- The result is this number, rounded to the context, or the number is too large. -/
def Rounds (result : Except DecimalError Decimal) (x : ℚ) : Prop :=
  (10 ^ (1000000 : ℤ) ≤ contextRound x ∧ result = .error .overflow) ∨
    ∃ d : Decimal, result = .ok d ∧ d.IsAmount ∧ d.InContext ∧ d.magnitude = contextRound x

lemma fix_rounds {s : Bool} {n : ℕ} {e : ℤ} (h : s = false ∨ n = 0) :
    Rounds (fix s n e) (n * 10 ^ e) := by
  obtain ⟨hlarge, hfix⟩ | ⟨-, m, k, hfix, hvalue, hm, hk⟩ := fix_spec s n e
  · exact .inl ⟨hlarge, hfix⟩
  · refine .inr ⟨_, hfix, ?_, ⟨hm, hk⟩, hvalue⟩
    rcases h with h | rfl
    · exact .inl h
    · right
      rw [Nat.cast_zero, zero_mul, contextRound_zero] at hvalue
      have hpos : (10 : ℚ) ^ k ≠ 0 := by positivity
      exact_mod_cast (mul_eq_zero.mp hvalue).resolve_right hpos

lemma mul_rounds {x y : Decimal} (hx : x.IsAmount) (hy : y.IsAmount) :
    Rounds (mul x y) (x.magnitude * y.magnitude) := by
  cases x with
  | finite s m e =>
      cases y with
      | finite t n f =>
          have hvalue : magnitude (.finite s m e) * magnitude (.finite t n f) =
              ((m * n : ℕ) : ℚ) * 10 ^ (e + f) := by
            show (m : ℚ) * 10 ^ e * (n * 10 ^ f) = _
            rw [zpow_add₀ (by norm_num)]
            push_cast
            ring
          rw [hvalue]
          refine fix_rounds ?_
          rcases hx with rfl | rfl
          · rcases hy with rfl | rfl
            · exact .inl rfl
            · exact .inr (Nat.mul_zero m)
          · exact .inr (Nat.zero_mul n)
      | infinite t => exact hy.elim
      | nan => exact hy.elim
  | infinite s => exact hx.elim
  | nan => exact hx.elim

lemma signed_of_amount {s : Bool} {m : ℕ} (h : s = false ∨ m = 0) (k : ℕ) :
    signed s (m * k) = ((m * k : ℕ) : ℤ) := by
  rcases h with rfl | rfl
  · rfl
  · cases s with
    | true => simp [signed]
    | false => rfl

/-- A number with a smaller exponent. -/
lemma shift_value (m : ℕ) {e low : ℤ} (h : low ≤ e) :
    ((m * 10 ^ (e - low).toNat : ℕ) : ℚ) * 10 ^ low = m * 10 ^ e := by
  push_cast
  rw [← zpow_natCast, Int.toNat_of_nonneg (by omega), mul_assoc, ← zpow_add₀ (by norm_num),
    sub_add_cancel]

lemma add_rounds {x y : Decimal} (hx : x.IsAmount) (hy : y.IsAmount) :
    Rounds (add x y) (x.magnitude + y.magnitude) := by
  cases x with
  | finite s m e =>
      cases y with
      | finite t n f =>
          unfold add
          dsimp only
          rw [signed_of_amount hx, signed_of_amount hy]
          set low := min e f with hlow
          have hvalue : magnitude (.finite s m e) + magnitude (.finite t n f) =
              ((m * 10 ^ (e - low).toNat + n * 10 ^ (f - low).toNat : ℕ) : ℚ) * 10 ^ low := by
            show (m : ℚ) * 10 ^ e + n * 10 ^ f = _
            rw [← shift_value m (min_le_left e f), ← shift_value n (min_le_right e f), ← hlow]
            push_cast
            ring
          rw [hvalue, ← Nat.cast_add, Int.natAbs_natCast]
          refine fix_rounds ?_
          by_cases hzero : m * 10 ^ (e - low).toNat + n * 10 ^ (f - low).toNat = 0
          · exact .inr hzero
          · left
            rw [if_neg (by exact_mod_cast hzero)]
            exact decide_eq_false (by omega)
      | infinite t => exact hy.elim
      | nan => exact hy.elim
  | infinite s => exact hx.elim
  | nan => exact hx.elim

lemma dropZeros_value (n coefficient : ℕ) :
    (dropZeros n coefficient).1 * 10 ^ (dropZeros n coefficient).2 = coefficient := by
  fun_induction dropZeros n coefficient with
  | case1 coefficient => simp
  | case2 coefficient n hzero shorter dropped heq ih =>
      rw [heq] at ih
      dsimp only at ih ⊢
      rw [pow_succ, ← mul_assoc, ih]
      omega
  | case3 coefficient n hzero => simp

/-- A millionth of a number. -/
lemma div_million_rounds {x : Decimal} (hx : x.IsAmount) (hin : x.InContext) :
    Rounds (div x (.ofInt 1000000)) (x.magnitude / 10 ^ 6) := by
  cases x with
  | finite s m e =>
      have hdigits : digitCount 1000000 = 7 := by decide
      have hcount : digitCount m ≤ 28 := (digitCount_le_iff (by norm_num)).mpr hin.1
      have hvalue : magnitude (.finite s m e) / 10 ^ 6 = (m : ℚ) * 10 ^ (e - 6) := by
        show (m : ℚ) * 10 ^ e / 10 ^ 6 = _
        rw [zpow_sub₀ (by norm_num), mul_div_assoc]
        norm_cast
      rw [hvalue]
      have hsign : (s != decide ((1000000 : ℤ) < 0)) = s := by cases s <;> rfl
      unfold div ofInt
      dsimp only
      rw [if_neg (by decide), hsign]
      by_cases hm : m = 0
      · rw [if_pos hm, hm, Nat.cast_zero, zero_mul]
        have hfix := fix_rounds (s := s) (e := e - 0) (n := 0) (.inr rfl)
        rwa [Nat.cast_zero, zero_mul] at hfix
      · rw [if_neg hm, show (1000000 : ℤ).natAbs = 1000000 from rfl, hdigits]
        set shift : ℤ := ((7 : ℕ) : ℤ) - digitCount m + precision + 1 with hshift
        have hlarge : 8 ≤ shift := by
          rw [hshift]
          unfold precision
          omega
        have hquotient : m * 10 ^ shift.toNat =
            m * 10 ^ (shift.toNat - 6) * (1000000 * 10 ^ (-shift).toNat) := by
          rw [show (-shift).toNat = 0 by omega, pow_zero, mul_one,
            show (1000000 : ℕ) = 10 ^ 6 by norm_num, mul_assoc, ← pow_add]
          congr 2
          omega
        rw [hquotient, Nat.mul_mod_left, Nat.mul_div_cancel _ (by positivity),
          if_neg (by simp)]
        have hdrop := dropZeros_value (e - 0 - (e - 0 - shift)).toNat (m * 10 ^ (shift.toNat - 6))
        set result := dropZeros (e - 0 - (e - 0 - shift)).toNat (m * 10 ^ (shift.toNat - 6))
        have hshort : (m : ℚ) * 10 ^ (e - 6) =
            result.1 * 10 ^ (e - 0 - shift + (result.2 : ℤ)) := by
          rw [zpow_add₀ (by norm_num), zpow_natCast, mul_comm ((10 : ℚ) ^ (e - 0 - shift)),
            ← mul_assoc]
          have hcast : (result.1 : ℚ) * 10 ^ result.2 = m * 10 ^ (shift.toNat - 6) := by
            exact_mod_cast hdrop
          rw [hcast, mul_assoc, ← zpow_natCast, ← zpow_add₀ (by norm_num)]
          congr 2
          omega
        rw [hshort]
        refine fix_rounds ?_
        rcases hx with rfl | hx
        · exact .inl rfl
        · exact absurd hx hm
  | infinite s => exact hx.elim
  | nan => exact hx.elim

/-- A number below the limit keeps its digits. -/
lemma fix_of_digits {s : Bool} {n : ℕ} {p : ℕ} (hn : n < 10 ^ precision) (hp : p ≤ 999999) :
    fix s n (-(p : ℤ)) = .ok (.finite s n (-(p : ℤ))) := by
  unfold fix
  by_cases hzero : n = 0
  · rw [if_pos hzero, hzero]
    unfold tinyExponent maxExponent
    rw [max_eq_left (by omega), min_eq_left (by omega)]
  · have hcount : digitCount n ≤ precision := (digitCount_le_iff (by decide)).mpr hn
    have hint : (digitCount n : ℤ) ≤ precision := by exact_mod_cast hcount
    unfold topExponent tinyExponent
    rw [if_neg hzero]
    dsimp only
    rw [if_neg (by omega), if_pos (max_le (by omega) (by omega))]

/-- The value, counted in units of the last place that is kept. -/
lemma rescale_halfUp (m : ℕ) (e : ℤ) (p : ℕ) :
    rescale .halfUp m e (-(p : ℤ)) = halfUp ((m : ℚ) * 10 ^ e * 10 ^ p) := by
  unfold rescale
  by_cases hle : -(p : ℤ) ≤ e
  · rw [if_pos hle, ← halfUp_natCast (m * 10 ^ (e - -(p : ℤ)).toNat)]
    congr 1
    push_cast
    rw [← zpow_natCast, ← zpow_natCast, Int.toNat_of_nonneg (by omega), mul_assoc,
      ← zpow_add₀ (by norm_num), sub_neg_eq_add]
  · rw [if_neg hle, roundedShift_halfUp]
    congr 1
    rw [← zpow_natCast, ← zpow_natCast, Int.toNat_of_nonneg (by omega), mul_assoc,
      ← zpow_add₀ (by norm_num), div_eq_mul_inv, ← zpow_neg]
    congr 2
    ring

/-- **Quantizing.**  The number is rounded to the places, half up; the result must have at most 28
digits. -/
theorem quantize_spec {s : Bool} {m : ℕ} {e : ℤ} {p : ℕ} (hp : p ≤ 999999) :
    quantize .halfUp p (.finite s m e) =
      if halfUp ((m : ℚ) * 10 ^ e * 10 ^ p) < 10 ^ precision then
        .ok (.finite s (halfUp ((m : ℚ) * 10 ^ e * 10 ^ p)) (-(p : ℤ)))
      else .error .invalidOperation := by
  unfold quantize
  dsimp only
  by_cases hm : m = 0
  · have hzero : halfUp ((m : ℚ) * 10 ^ e * 10 ^ p) = 0 := by
      rw [hm, Nat.cast_zero, zero_mul, zero_mul]
      exact_mod_cast halfUp_natCast 0
    rw [if_pos hm, hzero, if_pos (by decide), fix_of_digits (by decide) hp]
  rw [if_neg hm, rescale_halfUp]
  by_cases hlarge : maxExponent < (digitCount m : ℤ) + e - 1 ∨
      (precision : ℤ) < (digitCount m : ℤ) + e - 1 - -(p : ℤ) + 1
  · -- the first digit is already too far to the left
    rw [if_pos hlarge, if_neg]
    have hpow : 10 ^ ((digitCount m : ℤ) - 1 + e) ≤ (m : ℚ) * 10 ^ e := by
      have hpos : 0 < m := Nat.pos_of_ne_zero hm
      have hlog := Int.zpow_log_le_self (b := 10) (r := (m : ℚ) * 10 ^ e) (by norm_num)
        (by positivity)
      rw [log_value hpos] at hlog
      exact_mod_cast hlog
    have hvalue : (10 : ℚ) ^ (28 : ℤ) ≤ (m : ℚ) * 10 ^ e * 10 ^ p := by
      calc (10 : ℚ) ^ (28 : ℤ) ≤ 10 ^ ((digitCount m : ℤ) - 1 + e + p) :=
            zpow_le_zpow_right₀ (by norm_num) (by
              unfold maxExponent precision at hlarge
              push_cast at hlarge
              omega)
        _ = 10 ^ ((digitCount m : ℤ) - 1 + e) * 10 ^ p := by
            rw [zpow_add₀ (by norm_num), zpow_natCast]
        _ ≤ _ := mul_le_mul_of_nonneg_right hpow (by positivity)
    have hmono := halfUp_mono hvalue
    have hnat : halfUp ((10 : ℚ) ^ (28 : ℤ)) = 10 ^ precision := by
      rw [← halfUp_natCast (10 ^ precision)]
      congr 1
    rw [hnat] at hmono
    exact not_lt.mpr hmono
  · rw [if_neg hlarge]
    by_cases hdigits : halfUp ((m : ℚ) * 10 ^ e * 10 ^ p) < 10 ^ precision
    · rw [if_neg (not_lt.mpr ((digitCount_le_iff (by decide)).mpr hdigits)), if_pos hdigits,
        fix_of_digits hdigits hp]
    · rw [if_pos (not_le.mp ((digitCount_le_iff (by decide)).not.mpr hdigits)), if_neg hdigits]

/-! ## Exact results -/

/-- The number has at most as many significant digits as the context keeps. -/
def HasDigits (x : ℚ) : Prop := ∃ (n : ℕ) (k : ℤ), n < 10 ^ precision ∧ x = n * 10 ^ k

/-- The computed value is the exact one, or both are below a bound; an exact zero is computed. -/
def Near (bound x y : ℚ) : Prop := y = x ∨ 0 < x ∧ x < bound ∧ y < bound

/-- Below this the context may lack digits at the end. -/
def subnormalBound : ℚ := 2 * 10 ^ (-999998 : ℤ)

lemma subnormalBound_pos : 0 < subnormalBound := by
  unfold subnormalBound
  positivity

lemma hasDigits_zero : HasDigits 0 := ⟨0, 0, by decide, by simp⟩

lemma HasDigits.nonneg {x : ℚ} (h : HasDigits x) : 0 ≤ x := by
  obtain ⟨n, k, -, rfl⟩ := h
  positivity

lemma HasDigits.div_million {x : ℚ} (h : HasDigits x) : HasDigits (x / 10 ^ 6) := by
  obtain ⟨n, k, hn, rfl⟩ := h
  refine ⟨n, k - 6, hn, ?_⟩
  rw [zpow_sub₀ (by norm_num), mul_div_assoc]
  norm_cast

lemma Near.mono {b c x y : ℚ} (h : Near b x y) (hle : b ≤ c) : Near c x y := by
  rcases h with h | ⟨hpos, hx, hy⟩
  · exact .inl h
  · exact .inr ⟨hpos, hx.trans_le hle, hy.trans_le hle⟩

/-- Rounding keeps a number of few digits, unless it is tiny. -/
lemma near_contextRound {x : ℚ} (h : HasDigits x) : Near subnormalBound x (contextRound x) := by
  have hnonneg := h.nonneg
  obtain ⟨n, k, hn, rfl⟩ := h
  by_cases hk : tinyExponent ≤ k
  · exact .inl (contextRound_of_digits hn hk)
  · rcases hnonneg.eq_or_lt with hzero | hpos
    · left
      rw [← hzero, contextRound_zero]
    · right
      have hsmall : (n : ℚ) * 10 ^ k < 10 ^ (-999998 : ℤ) := by
        have hn' : (n : ℚ) < 10 ^ (28 : ℤ) := by exact_mod_cast hn
        unfold tinyExponent at hk
        calc (n : ℚ) * 10 ^ k < 10 ^ (28 : ℤ) * 10 ^ k :=
              mul_lt_mul_of_pos_right hn' (by positivity)
          _ = 10 ^ (28 + k) := (zpow_add₀ (by norm_num) _ _).symm
          _ ≤ 10 ^ (-999998 : ℤ) := zpow_le_zpow_right₀ (by norm_num) (by omega)
      have hbound : (0 : ℚ) < 10 ^ (-999998 : ℤ) := by positivity
      have hle := contextRound_le_two_mul hnonneg
      unfold subnormalBound
      exact ⟨hpos, by linarith, by linarith⟩

/-- Two numbers of few digits cannot differ by much less than their size. -/
lemma lt_of_hasDigits_add {x d : ℚ} (hx : HasDigits x) (hsum : HasDigits (x + d)) (hd : 0 < d) :
    x < 10 ^ precision * d := by
  obtain ⟨n, k, hn, rfl⟩ := hx
  obtain ⟨m, l, hm, heq⟩ := hsum
  -- both are multiples of the smaller of the two units
  have hunit : ∀ {e : ℤ} {a b : ℕ}, (n : ℚ) * 10 ^ k = a * 10 ^ e → (m : ℚ) * 10 ^ l = b * 10 ^ e →
      10 ^ e ≤ d := by
    intro e a b ha hb
    have hpos : (0 : ℚ) < 10 ^ e := by positivity
    have hdiff : d = ((b : ℚ) - a) * 10 ^ e := by
      rw [sub_mul, ← ha, ← hb]
      linarith
    have hlt : (a : ℚ) < b := by
      by_contra hle
      have : ((b : ℚ) - a) * 10 ^ e ≤ 0 :=
        mul_nonpos_of_nonpos_of_nonneg (by linarith [not_lt.mp hle]) hpos.le
      linarith
    have hone : (1 : ℚ) ≤ b - a := by
      have hsucc : a + 1 ≤ b := by exact_mod_cast hlt
      have hcast : ((a + 1 : ℕ) : ℚ) ≤ b := by exact_mod_cast hsucc
      push_cast at hcast
      linarith
    rw [hdiff]
    exact le_mul_of_one_le_left hpos.le hone
  have hshift : ∀ {c : ℕ} {e f : ℤ}, e ≤ f →
      (c : ℚ) * 10 ^ f = ((c * 10 ^ (f - e).toNat : ℕ) : ℚ) * 10 ^ e :=
    fun hle => (shift_value _ hle).symm
  have hpos : (0 : ℚ) < 10 ^ precision := by positivity
  rcases le_total k l with hle | hle
  · have hd' := hunit rfl (hshift hle)
    have hn' : (n : ℚ) < 10 ^ precision := by exact_mod_cast hn
    calc (n : ℚ) * 10 ^ k < 10 ^ precision * 10 ^ k :=
          mul_lt_mul_of_pos_right hn' (by positivity)
      _ ≤ 10 ^ precision * d := mul_le_mul_of_nonneg_left hd' hpos.le
  · have hd' := hunit (hshift hle) rfl
    have hm' : (m : ℚ) < 10 ^ precision := by exact_mod_cast hm
    calc (n : ℚ) * 10 ^ k < n * 10 ^ k + d := lt_add_of_pos_right _ hd
      _ = m * 10 ^ l := heq
      _ < 10 ^ precision * 10 ^ l := mul_lt_mul_of_pos_right hm' (by positivity)
      _ ≤ 10 ^ precision * d := mul_le_mul_of_nonneg_left hd' hpos.le

/-- A sum of computed values is near to the exact sum. -/
lemma near_add {bound x₁ x₂ y₁ y₂ : ℚ} (h₁ : Near bound x₁ y₁) (h₂ : Near bound x₂ y₂)
    (hx₁ : HasDigits x₁) (hx₂ : HasDigits x₂) (hsum : HasDigits (x₁ + x₂)) (hy₁ : 0 ≤ y₁)
    (hy₂ : 0 ≤ y₂) (hbound : subnormalBound ≤ bound) :
    Near (10 ^ 30 * bound) (x₁ + x₂) (contextRound (y₁ + y₂)) := by
  have hpos : 0 < bound := subnormalBound_pos.trans_le hbound
  have hround := contextRound_le_two_mul (add_nonneg hy₁ hy₂)
  have hn₁ := hx₁.nonneg
  have hn₂ := hx₂.nonneg
  have hpow : (10 : ℚ) ^ 30 = 100 * 10 ^ 28 := by norm_num
  have hgap : ∀ {x d : ℚ}, HasDigits x → HasDigits (x + d) → 0 < d → d < bound →
      x < 10 ^ 28 * bound := by
    intro x d hx hxd hd hlt
    calc x < 10 ^ 28 * d := lt_of_hasDigits_add hx hxd hd
      _ ≤ 10 ^ 28 * bound := by linarith
  rcases h₁ with rfl | ⟨hpos₁, hlt₁, hlty₁⟩
  · rcases h₂ with rfl | ⟨hpos₂, hlt₂, hlty₂⟩
    · refine (near_contextRound hsum).mono ?_
      rw [hpow]
      linarith
    · have hless := hgap hx₁ hsum hpos₂ hlt₂
      refine .inr ⟨by linarith, ?_, ?_⟩
      · rw [hpow]
        linarith
      · rw [hpow]
        linarith
  · rcases h₂ with rfl | ⟨hpos₂, hlt₂, hlty₂⟩
    · have hless := hgap hx₂ (by rwa [add_comm]) hpos₁ hlt₁
      refine .inr ⟨by linarith, ?_, ?_⟩
      · rw [hpow]
        linarith
      · rw [hpow]
        linarith
    · refine .inr ⟨by linarith, ?_, ?_⟩
      · rw [hpow]
        linarith
      · rw [hpow]
        linarith

lemma halfUp_of_lt_half {x : ℚ} (h : x < 1 / 2) : halfUp x = 0 := by
  unfold halfUp
  rw [Nat.floor_eq_zero]
  linarith

/-- Values that are near to each other are rounded to the same places. -/
lemma halfUp_of_near {bound x y : ℚ} {p : ℕ} (h : Near bound x y)
    (hbound : bound * 10 ^ p ≤ 1 / 2) : halfUp (y * 10 ^ p) = halfUp (x * 10 ^ p) := by
  have hpos : (0 : ℚ) < 10 ^ p := by positivity
  rcases h with rfl | ⟨-, hx, hy⟩
  · rfl
  · rw [halfUp_of_lt_half ((mul_lt_mul_of_pos_right hy hpos).trans_le hbound),
      halfUp_of_lt_half ((mul_lt_mul_of_pos_right hx hpos).trans_le hbound)]

/-- An integer of few digits is kept. -/
lemma contextRound_natCast {n : ℕ} (h : HasDigits n) : contextRound n = n := by
  rcases near_contextRound h with h | ⟨hpos, hlt, -⟩
  · exact h
  · have hone : (1 : ℚ) ≤ n := by exact_mod_cast Nat.one_le_cast.mpr (by exact_mod_cast hpos)
    have hsmall : subnormalBound ≤ 1 := by
      have hpow : (10 : ℚ) ^ (-999998 : ℤ) ≤ 10 ^ (-1 : ℤ) :=
        zpow_le_zpow_right₀ (by norm_num) (by norm_num)
      calc (2 : ℚ) * 10 ^ (-999998 : ℤ) ≤ 2 * 10 ^ (-1 : ℤ) :=
            mul_le_mul_of_nonneg_left hpow (by norm_num)
        _ ≤ 1 := by norm_num
    exact absurd (hlt.trans_le hsmall) (not_lt.mpr hone)

/-- Rounding half up changes a number by half a unit at most. -/
lemma abs_halfUp_sub (x : ℚ) (h : 0 ≤ x) : |(halfUp x : ℚ) - x| ≤ 1 / 2 := by
  rw [abs_le]
  constructor
  · linarith [le_halfUp x]
  · linarith [halfUp_le x h]

end Decimal

end AgentRuntimeOps.Lib
