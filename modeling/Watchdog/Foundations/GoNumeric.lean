import Mathlib
import Watchdog.Foundations.RoundNearest

namespace GoNumeric

instance instLinearOrderUInt64 : LinearOrder UInt64 where
  le := (· ≤ ·)
  lt := (· < ·)
  le_refl := UInt64.le_refl
  le_trans _ _ _ := UInt64.le_trans
  le_antisymm _ _ := UInt64.le_antisymm
  le_total := UInt64.le_total
  lt_iff_le_not_ge a b := by
    simp only [UInt64.lt_iff_toNat_lt, UInt64.le_iff_toNat_le]
    omega
  toDecidableLE := inferInstance
  toDecidableEq := inferInstance
  toDecidableLT := inferInstance
  min := min
  max := max
  min_def _ _ := rfl
  max_def _ _ := rfl
  compare a b := compare a b
  compare_eq_compareOfLessAndEq _ _ := rfl

def second : Int := 1000000000

def zeroTime : Int := -62135596800 * second

def maxDuration : Int := 2 ^ 63 - 1

def minDuration : Int := -2 ^ 63

def timeSub (t u : Int) : Int := max minDuration (min maxDuration (t - u))

def unixToInternal : Int64 := 62135596800

def unixTime (sec : Int64) : Int := ((sec + unixToInternal).toInt - unixToInternal.toInt) * second

theorem timeSub_nonneg (t u : Int) (h : u ≤ t) : 0 ≤ timeSub t u := by
  simp only [timeSub, maxDuration, minDuration]
  omega

theorem toNat_toUInt64_of_nonneg (x : Int64) (h : 0 ≤ x.toInt) : (x.toUInt64.toNat : Int) = x.toInt := by
  have h1 : x.toUInt64.toNat = x.toBitVec.toNat := rfl
  have h2 : x.toInt = x.toBitVec.toInt := rfl
  rw [h1]
  rw [h2] at h ⊢
  rw [BitVec.toInt_eq_toNat_cond] at h ⊢
  split <;> omega

theorem toInt_mul_second (x : Int64) (h₁ : -9223372036 ≤ x.toInt) (h₂ : x.toInt ≤ 9223372036) :
    (x * 1000000000).toInt = x.toInt * 1000000000 := by
  rw [Int64.toInt_mul, Int.bmod_eq_of_le] <;> simp <;> omega

theorem toNat_toBitVec_toInt32 (x : Int64) : x.toInt32.toBitVec.toNat = x.toBitVec.toNat % 2 ^ 32 := by
  rw [Int64.toBitVec_toInt32, BitVec.signExtend_eq_setWidth_of_le _ (by decide), BitVec.toNat_setWidth]

theorem sub_ofNat_sub_one (x : Int32) (e : Nat) : (x - Int32.ofNat e) - 1 = x - Int32.ofNat (e + 1) := by
  apply Int32.toBitVec_inj.mp
  simp [Int32.toBitVec_sub]
  bv_omega

theorem toInt32_sub_ofNat_eq_zero_iff (p : Int64) (e : Nat) (h₁ : 1 ≤ e) (he : e ≤ p.toInt.toNat)
    (hp : p.toInt ≤ 2 ^ 32) :
    p.toInt32 - Int32.ofNat e = 0 ↔ e = p.toInt.toNat := by
  have hnat := toNat_toUInt64_of_nonneg p (by omega)
  have hbv : p.toUInt64.toNat = p.toBitVec.toNat := rfl
  rw [← Int32.toBitVec_inj, Int32.toBitVec_sub, Int32.toBitVec_zero, ← BitVec.toNat_inj, BitVec.toNat_sub,
    toNat_toBitVec_toInt32, Int32.toBitVec_ofNat', BitVec.toNat_ofNat, BitVec.toNat_ofNat]
  omega

def float64 (n : Int) : ℚ := RoundNearest.round 53 n

def fdiv (a b : ℚ) : ℚ := RoundNearest.round 53 (a / b)

def fmul (a b : ℚ) : ℚ := RoundNearest.round 53 (a * b)

def floatToInt (f : ℚ) : Int := if 0 ≤ f then ⌊f⌋ else ⌈f⌉

theorem float64_of_abs_lt {n : Int} (h : |n| < 2 ^ 53) : float64 n = n :=
  RoundNearest.round_intCast (by exact_mod_cast h)

theorem floatToInt_of_nonneg {f : ℚ} (h : 0 ≤ f) : floatToInt f = ⌊f⌋ := if_pos h

def fadd (a b : ℚ) : ℚ := RoundNearest.round 53 (a + b)

def seconds (d : Int) : ℚ :=
  fadd (float64 (d.tdiv second)) (fdiv (float64 (d.tmod second)) 1000000000)

def floatToUInt64 (f : ℚ) : UInt64 := UInt64.ofInt (floatToInt f)

theorem toInt_unixToInternal : unixToInternal.toInt = 62135596800 := rfl

theorem unixTime_of_le {sec : Int64} (h : sec.toInt ≤ 9223371974719179007) : unixTime sec = sec.toInt * second := by
  have hge := Int64.le_toInt sec
  have hadd : (sec + unixToInternal).toInt = sec.toInt + 62135596800 := by
    rw [Int64.toInt_add, toInt_unixToInternal, Int.bmod_eq_of_le] <;> norm_num <;> omega
  rw [unixTime, hadd, toInt_unixToInternal]
  ring

theorem unixTime_of_gt {sec : Int64} (h : 9223371974719179007 < sec.toInt) :
    unixTime sec = (sec.toInt - 2 ^ 64) * second := by
  have hlt := Int64.toInt_lt sec
  have hadd : (sec + unixToInternal).toInt = sec.toInt + 62135596800 - 2 ^ 64 := by
    rw [Int64.toInt_add, toInt_unixToInternal, Int.bmod_def]
    norm_num
    rw [Int.emod_eq_of_lt (by omega) (by omega), if_neg (by omega)]
  rw [unixTime, hadd, toInt_unixToInternal]
  ring

theorem timeSub_le (t u : Int) : timeSub t u ≤ maxDuration := by
  simp only [timeSub, maxDuration, minDuration]
  omega

theorem le_timeSub (t u : Int) : minDuration ≤ timeSub t u := by
  simp only [timeSub, maxDuration, minDuration]
  omega

theorem timeSub_pos_iff (t u : Int) : 0 < timeSub t u ↔ u < t := by
  simp only [timeSub, maxDuration, minDuration]
  omega

theorem timeSub_of_gt {t u : Int} (h : maxDuration < t - u) : timeSub t u = maxDuration := by
  simp only [timeSub, maxDuration, minDuration] at h ⊢
  omega

theorem float64_tdiv_second {d : Int} (h₀ : minDuration ≤ d) (h₁ : d ≤ maxDuration) :
    float64 (d.tdiv second) = d.tdiv second := by
  apply float64_of_abs_lt
  have hq : |d.tdiv second| ≤ 9223372037 := by
    rw [abs_le]
    rcases le_total 0 d with hd | hd
    · rw [Int.tdiv_eq_ediv_of_nonneg hd]
      simp only [second, minDuration, maxDuration] at h₀ h₁ ⊢
      omega
    · obtain ⟨e, rfl⟩ : ∃ e, d = -e := ⟨-d, by ring⟩
      rw [Int.neg_tdiv, Int.tdiv_eq_ediv_of_nonneg (by omega)]
      simp only [second, minDuration, maxDuration] at h₀ h₁ ⊢
      omega
  exact lt_of_le_of_lt hq (by norm_num)

theorem float64_tmod_second (d : Int) : float64 (d.tmod second) = d.tmod second := by
  apply float64_of_abs_lt
  have hr : |d.tmod second| < second := by
    rw [abs_lt]
    rcases le_total 0 d with hd | hd
    · rw [Int.tmod_eq_emod_of_nonneg hd]
      simp only [second]
      omega
    · obtain ⟨e, rfl⟩ : ∃ e, d = -e := ⟨-d, by ring⟩
      rw [Int.neg_tmod, Int.tmod_eq_emod_of_nonneg (by omega)]
      simp only [second]
      omega
  exact lt_trans hr (by norm_num [second])

theorem seconds_eq {d : Int} (h₀ : minDuration ≤ d) (h₁ : d ≤ maxDuration) :
    seconds d = RoundNearest.round 53
      (d.tdiv second + RoundNearest.round 53 ((d.tmod second : ℚ) / 1000000000)) := by
  rw [seconds, fadd, fdiv, float64_tdiv_second h₀ h₁, float64_tmod_second]

theorem round_fraction_le {r : Int} (h₀ : 0 ≤ r) (h₁ : r < second) :
    0 ≤ RoundNearest.round 53 ((r : ℚ) / 1000000000) ∧
      RoundNearest.round 53 ((r : ℚ) / 1000000000) ≤ 1 - 1 / 1000000000 + 1 / 2 ^ 53 := by
  have hx0 : (0 : ℚ) ≤ (r : ℚ) / 1000000000 := div_nonneg (by exact_mod_cast h₀) (by norm_num)
  have hr : (r : ℚ) ≤ 999999999 := by
    exact_mod_cast (show r ≤ 999999999 by simp only [second] at h₁; omega)
  have hx1 : (r : ℚ) / 1000000000 ≤ 1 - 1 / 1000000000 := by
    rw [div_le_iff₀ (by norm_num)]
    linarith
  have herr := RoundNearest.abs_round_sub_le 53 ((r : ℚ) / 1000000000)
  rw [abs_of_nonneg hx0] at herr
  have hsmall : (r : ℚ) / 1000000000 / 2 ^ 53 ≤ 1 / 2 ^ 53 := by
    gcongr
    linarith
  exact ⟨RoundNearest.round_nonneg 53 hx0, by linarith [(abs_le.mp herr).2]⟩

theorem seconds_nonpos {d : Int} (h₀ : minDuration ≤ d) (h₁ : d ≤ maxDuration) (hd : d ≤ 0) :
    seconds d ≤ 0 := by
  rw [seconds_eq h₀ h₁]
  obtain ⟨e, rfl⟩ : ∃ e, d = -e := ⟨-d, by ring⟩
  have he : 0 ≤ e := by omega
  have hq : ((-e).tdiv second : ℚ) ≤ 0 := by
    rw [Int.neg_tdiv, Int.tdiv_eq_ediv_of_nonneg he]
    exact_mod_cast neg_nonpos.mpr (Int.ediv_nonneg he (by norm_num [second]))
  have hr : ((-e).tmod second : ℚ) / 1000000000 ≤ 0 := by
    rw [Int.neg_tmod, Int.tmod_eq_emod_of_nonneg he]
    exact div_nonpos_of_nonpos_of_nonneg
      (by exact_mod_cast neg_nonpos.mpr (Int.emod_nonneg e (by norm_num [second]))) (by norm_num)
  have hy := RoundNearest.round_nonpos 53 hr
  exact RoundNearest.round_nonpos 53 (by linarith)

theorem seconds_pos {d : Int} (h₁ : d ≤ maxDuration) (hd : 0 < d) : 0 < seconds d := by
  rw [seconds_eq (le_trans (by norm_num [minDuration]) hd.le) h₁, Int.tdiv_eq_ediv_of_nonneg hd.le,
    Int.tmod_eq_emod_of_nonneg hd.le]
  have hq : (0 : ℚ) ≤ (d / second : ℤ) := by exact_mod_cast Int.ediv_nonneg hd.le (by norm_num [second])
  have hy := (round_fraction_le (Int.emod_nonneg d (by norm_num [second]))
    (Int.emod_lt_of_pos d (by norm_num [second]))).1
  apply RoundNearest.round_pos (by norm_num)
  rcases lt_or_ge 0 (d / second) with hpos | hzero
  · have : (1 : ℚ) ≤ (d / second : ℤ) := by exact_mod_cast hpos
    linarith
  · have hdq : d / second = 0 := le_antisymm hzero (Int.ediv_nonneg hd.le (by norm_num [second]))
    have hr : d % second = d := by
      have := Int.mul_ediv_add_emod d second
      rw [hdq] at this
      omega
    have hy' : 0 < RoundNearest.round 53 (((d % second : ℤ) : ℚ) / 1000000000) := by
      apply RoundNearest.round_pos (by norm_num)
      rw [hr]
      exact div_pos (by exact_mod_cast hd) (by norm_num)
    rw [hdq]
    push_cast
    linarith

theorem seconds_pos_iff {d : Int} (h₀ : minDuration ≤ d) (h₁ : d ≤ maxDuration) :
    0 < seconds d ↔ 0 < d :=
  ⟨fun hs => lt_of_not_ge fun hd => absurd (seconds_nonpos h₀ h₁ hd) (not_le.mpr hs), seconds_pos h₁⟩

theorem floor_seconds {d : Int} (h₀ : 0 ≤ d) (h₁ : d ≤ maxDuration) :
    d / second ≤ ⌊seconds d⌋ ∧ ⌊seconds d⌋ ≤ d / second + 1 ∧
      (d / second < 2 ^ 24 → ⌊seconds d⌋ = d / second) := by
  have hmin : minDuration ≤ d := le_trans (by norm_num [minDuration]) h₀
  rw [seconds_eq hmin h₁, Int.tdiv_eq_ediv_of_nonneg h₀, Int.tmod_eq_emod_of_nonneg h₀]
  obtain ⟨hy0, hy1⟩ := round_fraction_le (Int.emod_nonneg d (by norm_num [second]))
    (Int.emod_lt_of_pos d (by norm_num [second]))
  set q := d / second
  set y := RoundNearest.round 53 (((d % second : ℤ) : ℚ) / 1000000000)
  have hq0 : (0 : ℚ) ≤ q := by exact_mod_cast Int.ediv_nonneg h₀ (by norm_num [second])
  have hq1 : (q : ℚ) ≤ 9223372036 := by
    exact_mod_cast (show q ≤ 9223372036 by simp only [q, second, maxDuration] at h₁ ⊢; omega)
  have hx : |(q : ℚ) + y| < 2 ^ (34 : ℤ) := by
    rw [abs_of_nonneg (by linarith)]
    norm_num
    linarith
  have hlo : (q : ℚ) ≤ RoundNearest.round 53 (q + y) :=
    RoundNearest.intCast_le_round (by linarith) (lt_of_lt_of_le hx (by norm_num))
  have herr := (abs_le.mp (RoundNearest.abs_round_sub_le_of_abs_lt (p := 53) hx)).2
  have hulp : (2 : ℚ) ^ ((34 : ℤ) - (53 : ℕ)) / 2 = 1 / 2 ^ 20 := by norm_num
  rw [hulp] at herr
  refine ⟨Int.le_floor.mpr hlo, Int.floor_le_iff.mpr (by push_cast; linarith), fun hsmall => ?_⟩
  have hq24 : (q : ℚ) ≤ 2 ^ 24 - 1 := by exact_mod_cast (show q ≤ 2 ^ 24 - 1 by omega)
  have hx24 : |(q : ℚ) + y| < 2 ^ (24 : ℤ) := by
    rw [abs_of_nonneg (by linarith)]
    norm_num
    linarith
  have herr24 := (abs_le.mp (RoundNearest.abs_round_sub_le_of_abs_lt (p := 53) hx24)).2
  have hulp24 : (2 : ℚ) ^ ((24 : ℤ) - (53 : ℕ)) / 2 = 1 / 2 ^ 30 := by norm_num
  rw [hulp24] at herr24
  rw [Int.floor_eq_iff]
  exact ⟨hlo, by linarith⟩

theorem toNat_floatToUInt64_seconds {d : Int} (h₀ : 0 ≤ d) (h₁ : d ≤ maxDuration) :
    ((floatToUInt64 (seconds d)).toNat : Int) = ⌊seconds d⌋ := by
  obtain ⟨hlo, hhi, -⟩ := floor_seconds h₀ h₁
  have hq0 : 0 ≤ d / second := Int.ediv_nonneg h₀ (by norm_num [second])
  have hq1 : d / second ≤ 9223372036 := by simp only [second, maxDuration] at h₁ ⊢; omega
  have hs : 0 ≤ seconds d := by
    have : (0 : ℚ) ≤ ⌊seconds d⌋ := by exact_mod_cast hq0.trans hlo
    linarith [Int.floor_le (seconds d)]
  rw [floatToUInt64, floatToInt_of_nonneg hs, UInt64.ofInt, UInt64.toNat_ofNat',
    Int.emod_eq_of_lt (by omega) (by omega)]
  omega

theorem floatToUInt64_seconds {d : Int} (h₀ : 0 ≤ d) (h₁ : d ≤ maxDuration) :
    (floatToUInt64 (seconds d)).toNat = (d / second).toNat ∨
      (2 ^ 24 ≤ d / second ∧ (floatToUInt64 (seconds d)).toNat = (d / second).toNat + 1) := by
  have h := toNat_floatToUInt64_seconds h₀ h₁
  obtain ⟨hlo, hhi, hsmall⟩ := floor_seconds h₀ h₁
  by_cases hq : d / second < 2 ^ 24
  · left
    omega
  · omega

theorem lt_floatToUInt64_seconds_iff {warning : UInt64} (hw : warning.toNat < 2 ^ 24) {d : Int}
    (h₀ : 0 ≤ d) (h₁ : d ≤ maxDuration) :
    warning < floatToUInt64 (seconds d) ↔ warning.toNat < (d / second).toNat := by
  rw [UInt64.lt_iff_toNat_lt]
  rcases floatToUInt64_seconds h₀ h₁ with h | ⟨h24, h⟩ <;> omega

theorem le_floatToUInt64_seconds_iff {warning : UInt64} (hw : warning.toNat ≤ 2 ^ 24) {d : Int}
    (h₀ : 0 ≤ d) (h₁ : d ≤ maxDuration) :
    warning ≤ floatToUInt64 (seconds d) ↔ warning.toNat ≤ (d / second).toNat := by
  rw [UInt64.le_iff_toNat_le]
  rcases floatToUInt64_seconds h₀ h₁ with h | ⟨h24, h⟩ <;> omega

end GoNumeric
