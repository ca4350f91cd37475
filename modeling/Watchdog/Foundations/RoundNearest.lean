import Mathlib

namespace RoundNearest

def rne (x : ℚ) : ℤ :=
  if x - ⌊x⌋ < 1 / 2 then ⌊x⌋
  else if 1 / 2 < x - ⌊x⌋ then ⌊x⌋ + 1
  else if ⌊x⌋ % 2 = 0 then ⌊x⌋ else ⌊x⌋ + 1

def expo (x : ℚ) : ℤ :=
  let e : ℤ := (x.num.natAbs.log2 : ℤ) - (x.den.log2 : ℤ)
  if (2 : ℚ) ^ e ≤ |x| then e else e - 1

def quantum (p : ℕ) (x : ℚ) : ℤ := expo x + 1 - p

def round (p : ℕ) (x : ℚ) : ℚ := rne (x / 2 ^ quantum p x) * 2 ^ quantum p x

theorem abs_rne_sub_le (x : ℚ) : |(rne x : ℚ) - x| ≤ 1 / 2 := by
  have h₀ := Int.floor_le x
  have h₁ := Int.lt_floor_add_one x
  unfold rne
  split_ifs with hlt hgt
  · rw [abs_le]; constructor <;> linarith
  · rw [abs_le]; push_cast; constructor <;> linarith
  · have h₂ := not_lt.mp hlt
    have h₃ := not_lt.mp hgt
    rw [abs_le]; constructor <;> linarith
  · have h₂ := not_lt.mp hlt
    have h₃ := not_lt.mp hgt
    rw [abs_le]; push_cast; constructor <;> linarith

@[simp] theorem rne_intCast (n : ℤ) : rne n = n := by
  simp [rne]

theorem abs_eq_natAbs_div_den (x : ℚ) : |x| = (x.num.natAbs : ℚ) / x.den := by
  conv_lhs => rw [← Rat.num_div_den x]
  rw [abs_div, Nat.abs_cast, Nat.cast_natAbs, Int.cast_abs]

theorem expo_spec {x : ℚ} (hx : x ≠ 0) : (2 : ℚ) ^ expo x ≤ |x| ∧ |x| < 2 ^ (expo x + 1) := by
  have hn : x.num.natAbs ≠ 0 := by simpa using hx
  set a := x.num.natAbs.log2
  set b := x.den.log2
  have hdq : (0 : ℚ) < x.den := by exact_mod_cast x.den_pos
  have hn₁ : (2 : ℚ) ^ a ≤ x.num.natAbs := by exact_mod_cast Nat.log2_self_le hn
  have hn₂ : (x.num.natAbs : ℚ) < 2 ^ (a + 1) := by exact_mod_cast Nat.lt_log2_self
  have hd₁ : (2 : ℚ) ^ b ≤ x.den := by exact_mod_cast Nat.log2_self_le x.den_nz
  have hd₂ : (x.den : ℚ) < 2 ^ (b + 1) := by exact_mod_cast Nat.lt_log2_self
  have hlo : (2 : ℚ) ^ ((a : ℤ) - b - 1) ≤ |x| := by
    rw [abs_eq_natAbs_div_den, le_div_iff₀ hdq]
    calc (2 : ℚ) ^ ((a : ℤ) - b - 1) * x.den ≤ 2 ^ ((a : ℤ) - b - 1) * 2 ^ ((b : ℤ) + 1) := by
          gcongr; exact_mod_cast hd₂.le
      _ = 2 ^ a := by rw [← zpow_add₀ two_ne_zero, ← zpow_natCast]; congr 1; ring
      _ ≤ x.num.natAbs := hn₁
  have hhi : |x| < (2 : ℚ) ^ ((a : ℤ) - b + 1) := by
    rw [abs_eq_natAbs_div_den, div_lt_iff₀ hdq]
    calc (x.num.natAbs : ℚ) < 2 ^ (a + 1) := hn₂
      _ = 2 ^ ((a : ℤ) - b + 1) * 2 ^ (b : ℤ) := by
          rw [← zpow_add₀ two_ne_zero, ← zpow_natCast]; congr 1; push_cast; ring
      _ ≤ 2 ^ ((a : ℤ) - b + 1) * x.den := by gcongr; rw [zpow_natCast]; exact hd₁
  dsimp only [expo]
  split_ifs with h
  · exact ⟨h, hhi⟩
  · exact ⟨by simpa using hlo, by simpa using not_le.mp h⟩

theorem expo_lt_of_abs_lt {x : ℚ} (hx : x ≠ 0) {k : ℤ} (h : |x| < 2 ^ k) : expo x < k :=
  (zpow_lt_zpow_iff_right₀ (by norm_num : (1 : ℚ) < 2)).mp (lt_of_le_of_lt (expo_spec hx).1 h)

@[simp] theorem round_zero (p : ℕ) : round p 0 = 0 := by
  have h : rne 0 = 0 := by simpa using rne_intCast 0
  simp [round, h]

theorem floor_le_rne (x : ℚ) : ⌊x⌋ ≤ rne x := by
  unfold rne
  split_ifs <;> omega

theorem abs_round_sub_le_quantum (p : ℕ) (x : ℚ) : |round p x - x| ≤ 2 ^ quantum p x / 2 := by
  have hq : (0 : ℚ) < 2 ^ quantum p x := zpow_pos (by norm_num) _
  have hscale : round p x - x =
      ((rne (x / 2 ^ quantum p x) : ℚ) - x / 2 ^ quantum p x) * 2 ^ quantum p x := by
    rw [round, sub_mul, div_mul_cancel₀ _ hq.ne']
  calc |round p x - x|
      = |(rne (x / 2 ^ quantum p x) : ℚ) - x / 2 ^ quantum p x| * 2 ^ quantum p x := by
        rw [hscale, abs_mul, abs_of_pos hq]
    _ ≤ 1 / 2 * 2 ^ quantum p x := mul_le_mul_of_nonneg_right (abs_rne_sub_le _) hq.le
    _ = 2 ^ quantum p x / 2 := by ring

theorem abs_round_sub_le (p : ℕ) (x : ℚ) : |round p x - x| ≤ |x| / 2 ^ p := by
  rcases eq_or_ne x 0 with rfl | hx
  · simp
  have hhalf : (2 : ℚ) ^ quantum p x / 2 ≤ |x| / 2 ^ p := by
    have hq' : (2 : ℚ) ^ quantum p x / 2 = 2 ^ expo x / 2 ^ p := by
      rw [quantum, zpow_sub₀ two_ne_zero, zpow_add_one₀ two_ne_zero, zpow_natCast]; ring
    rw [hq']
    exact div_le_div_of_nonneg_right (expo_spec hx).1 (by positivity)
  exact (abs_round_sub_le_quantum p x).trans hhalf

theorem abs_round_sub_le_of_abs_lt {p : ℕ} {x : ℚ} {k : ℤ} (h : |x| < 2 ^ k) :
    |round p x - x| ≤ 2 ^ (k - p) / 2 := by
  rcases eq_or_ne x 0 with rfl | hx
  · simp only [round_zero, sub_zero, abs_zero]
    positivity
  have hq : quantum p x ≤ k - p := by
    have he := expo_lt_of_abs_lt hx h
    unfold quantum
    omega
  calc |round p x - x| ≤ 2 ^ quantum p x / 2 := abs_round_sub_le_quantum p x
    _ ≤ 2 ^ (k - p) / 2 := by gcongr; norm_num

theorem round_intCast {p : ℕ} {n : ℤ} (h : |(n : ℚ)| < 2 ^ p) : round p n = n := by
  rcases eq_or_ne n 0 with rfl | hn
  · simp
  have he : expo n < p := expo_lt_of_abs_lt (Int.cast_ne_zero.mpr hn) (by simpa using h)
  obtain ⟨k, hk⟩ : ∃ k : ℕ, quantum p n = -(k : ℤ) := ⟨(-(quantum p n)).toNat, by unfold quantum; omega⟩
  have hdiv : (n : ℚ) / 2 ^ quantum p n = ((n * 2 ^ k : ℤ) : ℚ) := by
    rw [hk, zpow_neg, zpow_natCast, div_inv_eq_mul]; push_cast; ring
  rw [round, hdiv, rne_intCast, ← hdiv, div_mul_cancel₀ _ (zpow_ne_zero _ two_ne_zero)]

theorem round_nonneg (p : ℕ) {x : ℚ} (hx : 0 ≤ x) : 0 ≤ round p x := by
  have h := abs_round_sub_le p x
  have hp : (1 : ℚ) ≤ 2 ^ p := one_le_pow₀ (by norm_num)
  rw [abs_of_nonneg hx] at h
  have hle : x / 2 ^ p ≤ x := div_le_self hx hp
  linarith [(abs_le.mp h).1]

theorem round_nonpos (p : ℕ) {x : ℚ} (hx : x ≤ 0) : round p x ≤ 0 := by
  have h := abs_round_sub_le p x
  have hp : (1 : ℚ) ≤ 2 ^ p := one_le_pow₀ (by norm_num)
  rw [abs_of_nonpos hx] at h
  have hle : -x / 2 ^ p ≤ -x := div_le_self (by linarith) hp
  linarith [(abs_le.mp h).2]

theorem round_pos {p : ℕ} (hp : 0 < p) {x : ℚ} (hx : 0 < x) : 0 < round p x := by
  have h := abs_round_sub_le p x
  have hp : (2 : ℚ) ≤ 2 ^ p := by
    calc (2 : ℚ) = 2 ^ 1 := by norm_num
      _ ≤ 2 ^ p := pow_le_pow_right₀ (by norm_num) hp
  rw [abs_of_pos hx] at h
  have hle : x / 2 ^ p ≤ x / 2 := div_le_div_of_nonneg_left hx.le (by norm_num) hp
  linarith [(abs_le.mp h).1]

theorem intCast_le_round {p : ℕ} {x : ℚ} {n : ℤ} (hn : (n : ℚ) ≤ x) (hx : |x| < 2 ^ p) :
    (n : ℚ) ≤ round p x := by
  rcases eq_or_ne x 0 with rfl | hx0
  · simpa using hn
  have he : expo x < p := expo_lt_of_abs_lt hx0 (by simpa using hx)
  obtain ⟨k, hk⟩ : ∃ k : ℕ, quantum p x = -(k : ℤ) := ⟨(-(quantum p x)).toNat, by unfold quantum; omega⟩
  have hpow : (2 : ℚ) ^ quantum p x * 2 ^ k = 1 := by
    rw [hk, zpow_neg, zpow_natCast, inv_mul_cancel₀ (by positivity)]
  have hscale : ((n * 2 ^ k : ℤ) : ℚ) ≤ x / 2 ^ quantum p x := by
    rw [hk, zpow_neg, zpow_natCast, div_inv_eq_mul]
    push_cast
    exact mul_le_mul_of_nonneg_right hn (by positivity)
  have hrne : n * 2 ^ k ≤ rne (x / 2 ^ quantum p x) := (Int.le_floor.mpr hscale).trans (floor_le_rne _)
  have hn' : (n : ℚ) = ((n * 2 ^ k : ℤ) : ℚ) * 2 ^ quantum p x := by
    push_cast
    rw [mul_assoc, mul_comm ((2 : ℚ) ^ k), hpow, mul_one]
  rw [round, hn']
  exact mul_le_mul_of_nonneg_right (by exact_mod_cast hrne) (zpow_pos (by norm_num) _).le

theorem floor_eq_of_abs_sub_le {x y ε : ℚ} {m : ℤ} (h : |y - x| ≤ ε) (hlo : (m : ℚ) ≤ x - ε)
    (hhi : x + ε < m + 1) : ⌊y⌋ = m := by
  obtain ⟨h₁, h₂⟩ := abs_le.mp h
  rw [Int.floor_eq_iff]
  constructor <;> linarith

theorem floor_eq_ediv_of_abs_sub_le {n k : ℤ} (hk : 0 < k) (hnd : ¬ k ∣ n) {y ε : ℚ}
    (h : |y - n / k| ≤ ε) (hε : ε < 1 / k) : ⌊y⌋ = n / k := by
  have hkq : (0 : ℚ) < k := by exact_mod_cast hk
  have hr₀ : 0 < n % k :=
    lt_of_le_of_ne (Int.emod_nonneg n hk.ne') fun h => hnd (Int.dvd_of_emod_eq_zero h.symm)
  have hr₁ : n % k < k := Int.emod_lt_of_pos n hk
  have hsplit : (n : ℚ) / k = ((n / k : ℤ) : ℚ) + ((n % k : ℤ) : ℚ) / k := by
    have h : ((k * (n / k) + n % k : ℤ) : ℚ) = n := by exact_mod_cast Int.mul_ediv_add_emod n k
    push_cast at h
    field_simp
    linarith
  have hlo : (1 : ℚ) / k ≤ ((n % k : ℤ) : ℚ) / k := by gcongr; exact_mod_cast hr₀
  have hhi : ((n % k : ℤ) : ℚ) / k + 1 / k ≤ 1 := by
    rw [← add_div, div_le_one hkq]; exact_mod_cast hr₁
  apply floor_eq_of_abs_sub_le h
  · rw [hsplit]; linarith
  · rw [hsplit]; linarith

theorem floor_eq_or_of_abs_sub_lt_one {y : ℚ} {m : ℤ} (h : |y - m| < 1) : ⌊y⌋ = m - 1 ∨ ⌊y⌋ = m := by
  obtain ⟨h₁, h₂⟩ := abs_lt.mp h
  have hlo : m - 1 ≤ ⌊y⌋ := Int.le_floor.mpr (by push_cast; linarith)
  have hhi : ⌊y⌋ < m + 1 := Int.floor_lt.mpr (by push_cast; linarith)
  omega

end RoundNearest
