import Mathlib
import Watchdog.Model.Monitor
import Watchdog.Foundations.GoMap
import Watchdog.Foundations.GoNumeric

namespace Watchdog

open GoNumeric
open GoMap (RangeOrder appendAt)

structure P2PConnectivity where
  Connected : Int
  TotalKnown : Int
  deriving DecidableEq, Repr

structure P2PAlert where
  incidentKey : String
  shard : Int
  avg : Int
  deriving DecidableEq, Repr

def connectionPercent (connected known : Int) : Int :=
  floatToInt (fmul (fdiv (float64 connected) (float64 known)) 100)

def connectionOf (c : P2PConnectivity) : Int :=
  if c.TotalKnown ≠ 0 then connectionPercent c.Connected c.TotalKnown else 0

def calcConnectivity (connected known : Int) : String :=
  if known ≠ 0 then toString (connectionPercent connected known) ++ "%" else "N/A"

def p2pShard (metadata : NodeMetadata) : Int := metadata.Payload.ShardID.toNat

def p2pPercent (p2p : NodeMetadata → P2PConnectivity) (nodes : List NodeMetadata) : List (Int × List Int) :=
  nodes.foldl (fun percent metadata => appendAt percent (p2pShard metadata) (connectionOf (p2p metadata))) []

def p2pAlert (chain : String) (shard avg : Int) : P2PAlert :=
  ⟨"Shard " ++ toString shard ++ " connectivity lower than threshold - " ++ chain, shard, avg⟩

def shardAlert (tolerance : Int) (chain : String) (entry : Int × List Int) : Option P2PAlert :=
  if 0 < entry.2.length then
    let avg := floatToInt (fdiv (float64 entry.2.sum) (float64 entry.2.length))
    if avg ≠ 0 ∧ avg < tolerance then some (p2pAlert chain entry.1 avg) else none
  else none

def p2pMonitor (ord : RangeOrder) (tolerance : Int) (chain : String) (p2p : NodeMetadata → P2PConnectivity)
    (data : MetadataContainer) : List P2PAlert :=
  (ord.arrange (p2pPercent p2p data.Nodes)).filterMap (shardAlert tolerance chain)

def shardsOf (nodes : List NodeMetadata) : List Int := (nodes.map p2pShard).dedup

def shardValues (p2p : NodeMetadata → P2PConnectivity) (nodes : List NodeMetadata) (s : Int) : List Int :=
  (nodes.filter fun v => p2pShard v = s).map fun v => connectionOf (p2p v)

def meanAlert (tolerance : Int) (chain : String) (values : List Int) (s : Int) : Option P2PAlert :=
  if values.sum / values.length ≠ 0 ∧ values.sum / values.length < tolerance then
    some (p2pAlert chain s (values.sum / values.length))
  else none

def SaneCounts (c : P2PConnectivity) : Prop :=
  c.TotalKnown = 0 ∨ 0 ≤ c.Connected ∧ c.Connected ≤ c.TotalKnown ∧ c.TotalKnown < 2 ^ 44

instance (c : P2PConnectivity) : Decidable (SaneCounts c) :=
  inferInstanceAs (Decidable (_ ∨ _))

section Percent

theorem abs_percent_sub_le {x : ℚ} (hx₀ : 0 ≤ x) (hx₁ : x ≤ 1) :
    |fmul (RoundNearest.round 53 x) 100 - 100 * x| ≤ 300 / 2 ^ 53 := by
  set a := RoundNearest.round 53 x
  have ha := RoundNearest.abs_round_sub_le 53 x
  have ha₀ : 0 ≤ a := RoundNearest.round_nonneg 53 hx₀
  have hb := RoundNearest.abs_round_sub_le 53 (a * 100)
  rw [abs_of_nonneg hx₀] at ha
  rw [abs_of_nonneg (show (0 : ℚ) ≤ a * 100 by positivity)] at hb
  have ha₂ : a ≤ 2 := by
    have : x / 2 ^ 53 ≤ 1 := by rw [div_le_one (by positivity)]; linarith
    linarith [(abs_le.mp ha).2]
  calc |fmul a 100 - 100 * x| = |(fmul a 100 - a * 100) + 100 * (a - x)| := by ring_nf
    _ ≤ |fmul a 100 - a * 100| + |100 * (a - x)| := abs_add_le _ _
    _ = |fmul a 100 - a * 100| + 100 * |a - x| := by rw [abs_mul, abs_of_pos (by norm_num : (0 : ℚ) < 100)]
    _ ≤ a * 100 / 2 ^ 53 + 100 * (x / 2 ^ 53) := by gcongr; exact hb
    _ = (100 * a + 100 * x) / 2 ^ 53 := by ring
    _ ≤ 300 / 2 ^ 53 := by gcongr; linarith

variable {c k : Int}

theorem connectionPercent_eq_round (hc : 0 ≤ c) (hk : 0 < k) (hk' : k < 2 ^ 44) (hck : c ≤ k) :
    connectionPercent c k = ⌊fmul (RoundNearest.round 53 ((c : ℚ) / k)) 100⌋ := by
  have hcf : float64 c = c := float64_of_abs_lt (by rw [abs_of_nonneg hc]; omega)
  have hkf : float64 k = k := float64_of_abs_lt (by rw [abs_of_pos hk]; omega)
  have hx₀ : (0 : ℚ) ≤ (c : ℚ) / k := by positivity
  rw [connectionPercent, fdiv, hcf, hkf, floatToInt_of_nonneg]
  exact RoundNearest.round_nonneg 53 (mul_nonneg (RoundNearest.round_nonneg 53 hx₀) (by norm_num))

theorem connectionPercent_eq_or (hc : 0 ≤ c) (hk : 0 < k) (hk' : k < 2 ^ 44) (hck : c ≤ k) :
    0 ≤ connectionPercent c k ∧
      (connectionPercent c k = 100 * c / k ∨ (k ∣ 100 * c ∧ connectionPercent c k = 100 * c / k - 1)) := by
  have hkq : (0 : ℚ) < k := by exact_mod_cast hk
  have hx₀ : (0 : ℚ) ≤ (c : ℚ) / k := by positivity
  have hx₁ : (c : ℚ) / k ≤ 1 := div_le_one_of_le₀ (by exact_mod_cast hck) hkq.le
  have herr := abs_percent_sub_le hx₀ hx₁
  have h100 : 100 * ((c : ℚ) / k) = ((100 * c : ℤ) : ℚ) / k := by push_cast; ring
  rw [h100] at herr
  have hy : 0 ≤ fmul (RoundNearest.round 53 ((c : ℚ) / k)) 100 :=
    RoundNearest.round_nonneg 53 (mul_nonneg (RoundNearest.round_nonneg 53 hx₀) (by norm_num))
  rw [connectionPercent_eq_round hc hk hk' hck]
  refine ⟨Int.floor_nonneg.mpr hy, ?_⟩
  by_cases hdvd : k ∣ 100 * c
  · have hm : ((100 * c / k : ℤ) : ℚ) = ((100 * c : ℤ) : ℚ) / k := Int.cast_div hdvd hkq.ne'
    rcases RoundNearest.floor_eq_or_of_abs_sub_lt_one (m := 100 * c / k)
        (by rw [hm]; exact lt_of_le_of_lt herr (by norm_num)) with h | h
    · exact .inr ⟨hdvd, h⟩
    · exact .inl h
  · refine .inl (RoundNearest.floor_eq_ediv_of_abs_sub_le hk hdvd herr ?_)
    have hk'' : (k : ℚ) < 2 ^ 44 := by exact_mod_cast hk'
    rw [div_lt_div_iff₀ (by norm_num) hkq]
    linarith

theorem connectionPercent_self (hk : 0 < k) (hk' : k < 2 ^ 44) : connectionPercent k k = 100 := by
  rw [connectionPercent_eq_round hk.le hk hk' le_rfl, div_self (by exact_mod_cast hk.ne'),
    show (1 : ℚ) = ((1 : ℤ) : ℚ) by simp, RoundNearest.round_intCast (by norm_num)]
  rw [fmul, show ((1 : ℤ) : ℚ) * 100 = ((100 : ℤ) : ℚ) by norm_num, RoundNearest.round_intCast (by norm_num)]
  simp

theorem connectionPercent_le (hc : 0 ≤ c) (hk : 0 < k) (hk' : k < 2 ^ 44) (hck : c ≤ k) :
    connectionPercent c k ≤ 100 * c / k := by
  rcases (connectionPercent_eq_or hc hk hk' hck).2 with h | ⟨-, h⟩ <;> omega

theorem ediv_le_hundred (hk : 0 < k) (hck : c ≤ k) : 100 * c / k ≤ 100 :=
  Int.ediv_le_of_le_mul hk (by linarith)

theorem connectionPercent_spec (hc : 0 ≤ c) (hck : c ≤ k) (hk : 0 < k) (hk' : k < 2 ^ 44) :
    0 ≤ connectionPercent c k ∧ connectionPercent c k ≤ 100 ∧ (connectionPercent c k = 100 ↔ c = k) ∧
      (connectionPercent c k = 100 * c / k ∨ (k ∣ 100 * c ∧ connectionPercent c k = 100 * c / k - 1)) := by
  obtain ⟨hnn, hfloor⟩ := connectionPercent_eq_or hc hk hk' hck
  have hle := connectionPercent_le hc hk hk' hck
  refine ⟨hnn, hle.trans (ediv_le_hundred hk hck), ⟨fun h100 => ?_, fun hck' => by subst hck'; exact connectionPercent_self hk hk'⟩,
    hfloor⟩
  by_contra hne
  have hlt : 100 * c / k < 100 := Int.ediv_lt_of_lt_mul hk (by have : c < k := lt_of_le_of_ne hck hne; linarith)
  omega

theorem connectionPercent_spec_twentyNine :
    connectionPercent 29 100 = 28 ∧
    (0 ≤ connectionPercent 29 100 ∧ connectionPercent 29 100 ≤ 100 ∧ (connectionPercent 29 100 = 100 ↔ (29 : Int) = 100) ∧
      (connectionPercent 29 100 = 100 * 29 / 100 ∨
        ((100 : Int) ∣ 100 * 29 ∧ connectionPercent 29 100 = 100 * 29 / 100 - 1))) :=
  ⟨by decide +kernel, connectionPercent_spec (by norm_num) (by norm_num) (by norm_num) (by norm_num)⟩

theorem connectionOf_mem {c : P2PConnectivity} (h : SaneCounts c) :
    0 ≤ connectionOf c ∧ connectionOf c ≤ 100 := by
  unfold connectionOf
  by_cases hk0 : c.TotalKnown = 0
  · simp [hk0]
  obtain ⟨hc, hck, hk'⟩ := h.resolve_left hk0
  have hk : 0 < c.TotalKnown := by omega
  rw [if_pos hk0]
  exact ⟨(connectionPercent_eq_or hc hk hk' hck).1,
    (connectionPercent_le hc hk hk' hck).trans (ediv_le_hundred hk hck)⟩

end Percent

theorem floatMean_eq {s n : Int} (hs : 0 ≤ s) (hn : 0 < n) (hs' : s < 2 ^ 53) (hn' : n < 2 ^ 53) :
    floatToInt (fdiv (float64 s) (float64 n)) = s / n := by
  have hnq : (0 : ℚ) < n := by exact_mod_cast hn
  have hx₀ : (0 : ℚ) ≤ (s : ℚ) / n := by positivity
  rw [float64_of_abs_lt (by rw [abs_of_nonneg hs]; exact hs'), float64_of_abs_lt (by rw [abs_of_pos hn]; exact hn'),
    fdiv, floatToInt_of_nonneg (RoundNearest.round_nonneg 53 hx₀)]
  by_cases hdvd : n ∣ s
  · have hm : ((s / n : ℤ) : ℚ) = (s : ℚ) / n := Int.cast_div hdvd hnq.ne'
    have hlt : |((s / n : ℤ) : ℚ)| < 2 ^ 53 := by
      rw [abs_of_nonneg (by exact_mod_cast Int.ediv_nonneg hs hn.le)]
      exact_mod_cast lt_of_le_of_lt (Int.ediv_le_self n hs) hs'
    rw [← hm, RoundNearest.round_intCast hlt, Int.floor_intCast]
  · refine RoundNearest.floor_eq_ediv_of_abs_sub_le hn hdvd (RoundNearest.abs_round_sub_le 53 _) ?_
    rw [abs_of_nonneg hx₀, div_lt_div_iff₀ (by positivity) hnq, div_mul_cancel₀ _ hnq.ne', one_mul]
    exact_mod_cast hs'

theorem shardAlert_eq_meanAlert (tolerance : Int) (chain : String) (s : Int) {values : List Int}
    (hne : values ≠ []) (hmem : ∀ v ∈ values, 0 ≤ v ∧ v ≤ 100) (hlen : values.length < 2 ^ 40) :
    shardAlert tolerance chain (s, values) = meanAlert tolerance chain values s := by
  have hpos : 0 < values.length := List.length_pos_of_ne_nil hne
  have hsum₀ : 0 ≤ values.sum := List.sum_nonneg fun v hv => (hmem v hv).1
  have hsum₁ : values.sum ≤ values.length • (100 : Int) := List.sum_le_card_nsmul _ _ fun v hv => (hmem v hv).2
  rw [nsmul_eq_mul] at hsum₁
  have hmean := floatMean_eq (s := values.sum) (n := values.length) hsum₀ (by exact_mod_cast hpos)
    (by omega) (by omega)
  simp only [shardAlert, meanAlert, hpos, if_true, hmean]

section Shards

variable (p2p : NodeMetadata → P2PConnectivity) (nodes : List NodeMetadata)

theorem p2pPercent_eq : p2pPercent p2p nodes =
    nodes.foldl (fun m v => (some (p2pShard v, connectionOf (p2p v))).elim m fun e => appendAt m e.1 e.2) [] :=
  rfl

theorem index_p2pPercent (s : Int) : GoMap.index (p2pPercent p2p nodes) s [] = shardValues p2p nodes s := by
  rw [p2pPercent_eq, GoMap.index_foldl_appendAt]
  simp [shardValues, List.filter_map, Function.comp_def]

theorem nodup_keys_p2pPercent : ((p2pPercent p2p nodes).map Prod.fst).Nodup := by
  rw [p2pPercent_eq]
  exact GoMap.nodup_keys_foldl_appendAt _ nodes List.nodup_nil

theorem keys_p2pPercent_perm : ((p2pPercent p2p nodes).map Prod.fst).Perm (shardsOf nodes) := by
  rw [shardsOf, List.perm_ext_iff_of_nodup (nodup_keys_p2pPercent p2p nodes) (List.nodup_dedup _)]
  intro s
  rw [p2pPercent_eq, GoMap.mem_keys_foldl_appendAt, List.mem_dedup]
  simp

theorem shardValues_ne_nil {s : Int} (hs : s ∈ shardsOf nodes) : shardValues p2p nodes s ≠ [] := by
  obtain ⟨v, hv, rfl⟩ := List.mem_map.mp (List.mem_dedup.mp hs)
  simpa [shardValues] using ⟨v, hv, rfl⟩

end Shards

theorem p2pMonitor_alerts (ord : RangeOrder) (tolerance : Int) (chain : String)
    (p2p : NodeMetadata → P2PConnectivity) (data : MetadataContainer)
    (hsane : ∀ v ∈ data.Nodes, SaneCounts (p2p v)) (hlen : data.Nodes.length < 2 ^ 40) :
    (p2pMonitor ord tolerance chain p2p data).Perm
      ((shardsOf data.Nodes).filterMap fun s => meanAlert tolerance chain (shardValues p2p data.Nodes s) s) := by
  unfold p2pMonitor
  refine ((ord.perm _).filterMap _).trans ((GoMap.filterMap_perm_keys _ (nodup_keys_p2pPercent p2p data.Nodes)
    (keys_p2pPercent_perm p2p data.Nodes) []).trans (List.Perm.of_eq ?_))
  apply List.filterMap_congr
  intro s hs
  rw [index_p2pPercent]
  apply shardAlert_eq_meanAlert tolerance chain s (shardValues_ne_nil p2p data.Nodes hs)
  · intro v hv
    obtain ⟨w, hw, rfl⟩ := List.mem_map.mp hv
    exact connectionOf_mem (hsane w (List.mem_filter.mp hw).1)
  · calc (shardValues p2p data.Nodes s).length ≤ data.Nodes.length := by
          simpa [shardValues] using List.length_filter_le _ _
      _ < 2 ^ 40 := hlen

def shardOneNode (ip : String) : NodeMetadata :=
  ⟨⟨[], "v1", "mainnet", false, 1, "Validator", 16384, "t.hmny.io", false, ⟨1, 2, 2, 0, 185, 0, 186⟩⟩, ip⟩

def twentyNinePercentNodes : MetadataContainer :=
  { (Container.zero : MetadataContainer) with Nodes := [shardOneNode "10.0.0.1:9500", shardOneNode "10.0.0.2:9500"] }

theorem p2pMonitor_alerts_twentyNine :
    (∀ v ∈ twentyNinePercentNodes.Nodes, SaneCounts ((fun _ => ⟨29, 100⟩ : NodeMetadata → P2PConnectivity) v)) ∧
    twentyNinePercentNodes.Nodes.length < 2 ^ 40 ∧
    (p2pMonitor .insertion 50 "mainnet" (fun _ => ⟨29, 100⟩) twentyNinePercentNodes).Perm
      ((shardsOf twentyNinePercentNodes.Nodes).filterMap fun s =>
        meanAlert 50 "mainnet" (shardValues (fun _ => ⟨29, 100⟩) twentyNinePercentNodes.Nodes s) s) := by
  have hsane : ∀ v ∈ twentyNinePercentNodes.Nodes,
      SaneCounts ((fun _ => ⟨29, 100⟩ : NodeMetadata → P2PConnectivity) v) := by
    intro v _
    show SaneCounts ⟨29, 100⟩
    decide
  have hlen : twentyNinePercentNodes.Nodes.length < 2 ^ 40 := by decide
  exact ⟨hsane, hlen, p2pMonitor_alerts .insertion 50 "mainnet" (fun _ => ⟨29, 100⟩) twentyNinePercentNodes hsane hlen⟩

end Watchdog
