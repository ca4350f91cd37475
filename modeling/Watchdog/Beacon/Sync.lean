import Mathlib
import Watchdog.Model.Rpc
import Watchdog.Foundations.GoMap

namespace Watchdog

open GoMap (RangeOrder)

structure CheckBeaconSync where
  blockNum : UInt64
  beaconHeight : UInt64
  threshold : UInt64
  syncTimer : UInt64
  IP : String
  pdServiceKey : String
  chain : String
  deriving DecidableEq, Repr

structure BeaconSyncAlert where
  incidentKey : String
  IP : String
  beaconNumber : UInt64
  beaconHeight : UInt64
  shard : UInt32
  chain : String
  deriving DecidableEq, Repr

def beaconSyncMonitor (ord : RangeOrder) (beaconBlock interval threshold : UInt64)
    (pdServiceKey chain : String) (currentBeaconHeaders : List (String × Option Header)) :
    List CheckBeaconSync :=
  (ord.arrange currentBeaconHeaders).filterMap fun (ip, header) =>
    match header with
    | some header =>
      if beaconBlock > header.Number && beaconBlock - header.Number >= threshold then
        some ⟨header.Number, beaconBlock, threshold, interval, ip, pdServiceKey, chain⟩
      else none
    | none => none

def checkBeaconSync (decodeHeaderPair : Bytes → HeaderPair) (c : CheckBeaconSync)
    (result : Except String Bytes) : Option BeaconSyncAlert :=
  match result with
  | .error _ => none
  | .ok result =>
    let headers := decodeHeaderPair result
    if !(headers.Beacon.Number > c.blockNum) && c.beaconHeight - headers.Beacon.Number > c.threshold then
      some ⟨c.IP ++ " beacon out of sync! - " ++ c.chain, c.IP, headers.Beacon.Number, c.beaconHeight,
        headers.AuxShard.ShardID, c.chain⟩
    else none

section Guards

variable {B n N t : UInt64}

theorem launch_guard_iff :
    (B > n && B - n >= t) = true ↔ n.toNat < B.toNat ∧ t.toNat ≤ B.toNat - n.toNat := by
  simp only [Bool.and_eq_true, decide_eq_true_eq, ge_iff_le, gt_iff_lt]
  constructor
  · rintro ⟨hlt, hge⟩
    rw [UInt64.le_iff_toNat_le, UInt64.toNat_sub_of_le _ _ (UInt64.le_of_lt hlt)] at hge
    exact ⟨UInt64.lt_iff_toNat_lt.mp hlt, hge⟩
  · rintro ⟨hlt, hge⟩
    have hlt' : n < B := UInt64.lt_iff_toNat_lt.mpr hlt
    refine ⟨hlt', ?_⟩
    rw [UInt64.le_iff_toNat_le, UInt64.toNat_sub_of_le _ _ (UInt64.le_of_lt hlt')]
    exact hge

theorem check_guard_iff (hn : n < B) :
    (!(N > n) && B - N > t) = true ↔ N.toNat ≤ n.toNat ∧ t.toNat < B.toNat - N.toNat := by
  simp only [Bool.and_eq_true, Bool.not_eq_true', decide_eq_false_iff_not, not_lt,
    decide_eq_true_eq, gt_iff_lt]
  have hnB := UInt64.lt_iff_toNat_lt.mp hn
  constructor
  · rintro ⟨hle, hgt⟩
    have hle' := UInt64.le_iff_toNat_le.mp hle
    rw [UInt64.lt_iff_toNat_lt, UInt64.toNat_sub_of_le _ _ (UInt64.le_iff_toNat_le.mpr (by omega))] at hgt
    exact ⟨hle', hgt⟩
  · rintro ⟨hle, hgt⟩
    refine ⟨UInt64.le_iff_toNat_le.mpr hle, ?_⟩
    rw [UInt64.lt_iff_toNat_lt, UInt64.toNat_sub_of_le _ _ (UInt64.le_iff_toNat_le.mpr (by omega))]
    exact hgt

end Guards

section Launch

variable {ord : RangeOrder} {beaconBlock interval threshold : UInt64} {pdServiceKey chain : String}
  {currentBeaconHeaders : List (String × Option Header)} {c : CheckBeaconSync}

theorem mem_beaconSyncMonitor :
    c ∈ beaconSyncMonitor ord beaconBlock interval threshold pdServiceKey chain currentBeaconHeaders ↔
      ∃ ip header, (ip, some header) ∈ currentBeaconHeaders ∧
        (beaconBlock > header.Number && beaconBlock - header.Number >= threshold) = true ∧
        c = ⟨header.Number, beaconBlock, threshold, interval, ip, pdServiceKey, chain⟩ := by
  simp only [beaconSyncMonitor, List.mem_filterMap, GoMap.RangeOrder.mem_arrange]
  constructor
  · rintro ⟨⟨ip, _ | header⟩, hmem, hc⟩
    · cases hc
    · simp only at hc
      split_ifs at hc with hguard
      cases hc
      exact ⟨ip, header, hmem, hguard, rfl⟩
  · rintro ⟨ip, header, hmem, hguard, rfl⟩
    exact ⟨(ip, some header), hmem, by simp only [hguard, if_true]⟩

theorem checkBeaconSync_eq_some {decodeHeaderPair : Bytes → HeaderPair} {result : Except String Bytes}
    {alert : BeaconSyncAlert} (h : checkBeaconSync decodeHeaderPair c result = some alert) :
    ∃ r, result = .ok r ∧ alert.beaconNumber = (decodeHeaderPair r).Beacon.Number ∧
      (!((decodeHeaderPair r).Beacon.Number > c.blockNum) &&
        c.beaconHeight - (decodeHeaderPair r).Beacon.Number > c.threshold) = true := by
  cases result with
  | error e => cases h
  | ok r =>
    simp only [checkBeaconSync] at h
    split_ifs at h with hguard
    cases h
    exact ⟨r, rfl, rfl, hguard⟩

end Launch

theorem beaconSyncMonitor_lag (ord : RangeOrder) (beaconBlock interval threshold : UInt64)
    (pdServiceKey chain : String) (currentBeaconHeaders : List (String × Option Header)) :
    ∀ c ∈ beaconSyncMonitor ord beaconBlock interval threshold pdServiceKey chain currentBeaconHeaders,
      (∃ header, (c.IP, some header) ∈ currentBeaconHeaders ∧ c.blockNum = header.Number) ∧
      c.beaconHeight = beaconBlock ∧ c.threshold = threshold ∧
      c.blockNum.toNat < beaconBlock.toNat ∧ threshold.toNat ≤ beaconBlock.toNat - c.blockNum.toNat ∧
      (∀ N : UInt64, N ≤ c.blockNum → (c.beaconHeight - N).toNat = c.beaconHeight.toNat - N.toNat) ∧
      ∀ (decodeHeaderPair : Bytes → HeaderPair) result alert,
        checkBeaconSync decodeHeaderPair c result = some alert →
          alert.beaconNumber.toNat ≤ c.blockNum.toNat ∧
            threshold.toNat < beaconBlock.toNat - alert.beaconNumber.toNat := by
  intro c hc
  obtain ⟨ip, header, hmem, hguard, rfl⟩ := mem_beaconSyncMonitor.mp hc
  obtain ⟨hlt, hge⟩ := launch_guard_iff.mp hguard
  have hlt' : header.Number < beaconBlock := UInt64.lt_iff_toNat_lt.mpr hlt
  refine ⟨⟨header, hmem, rfl⟩, rfl, rfl, hlt, hge, fun N hN => ?_, fun decodeHeaderPair result alert h => ?_⟩
  · exact UInt64.toNat_sub_of_le _ _ (UInt64.le_of_lt (lt_of_le_of_lt hN hlt'))
  · obtain ⟨r, -, hnum, hcheck⟩ := checkBeaconSync_eq_some h
    rw [hnum]
    exact check_guard_iff hlt' |>.mp hcheck

def laggingHeader : Header := ⟨"0xa", 10, 1, 0, 10⟩

def laggingCheck : CheckBeaconSync := ⟨10, 100, 20, 30, "10.0.0.1:9500", "key", "mainnet"⟩

theorem beaconSyncMonitor_lag_laggingCheck :
    laggingCheck ∈ beaconSyncMonitor .insertion 100 30 20 "key" "mainnet"
        [("10.0.0.1:9500", some laggingHeader)] ∧
      (∃ header, (laggingCheck.IP, some header) ∈ [("10.0.0.1:9500", some laggingHeader)] ∧
        laggingCheck.blockNum = header.Number) ∧
      laggingCheck.beaconHeight = 100 ∧ laggingCheck.threshold = 20 ∧
      laggingCheck.blockNum.toNat < (100 : UInt64).toNat ∧
      (20 : UInt64).toNat ≤ (100 : UInt64).toNat - laggingCheck.blockNum.toNat ∧
      (∀ N : UInt64, N ≤ laggingCheck.blockNum →
        (laggingCheck.beaconHeight - N).toNat = laggingCheck.beaconHeight.toNat - N.toNat) ∧
      ∀ (decodeHeaderPair : Bytes → HeaderPair) result alert,
        checkBeaconSync decodeHeaderPair laggingCheck result = some alert →
          alert.beaconNumber.toNat ≤ laggingCheck.blockNum.toNat ∧
            (20 : UInt64).toNat < (100 : UInt64).toNat - alert.beaconNumber.toNat := by
  have hmem : laggingCheck ∈ beaconSyncMonitor .insertion 100 30 20 "key" "mainnet"
      [("10.0.0.1:9500", some laggingHeader)] := by
    decide
  exact ⟨hmem, beaconSyncMonitor_lag _ _ _ _ _ _ _ laggingCheck hmem⟩

end Watchdog
