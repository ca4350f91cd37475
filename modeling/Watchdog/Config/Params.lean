import Mathlib
import Watchdog.Model.Rpc
import Watchdog.Foundations.GoMap
import Watchdog.Foundations.GoStd

namespace Watchdog

open GoMap (RangeOrder)

structure PagerDutyConfig where
  EventServiceKey : String
  deriving DecidableEq, Repr

structure AuthConfig where
  PagerDuty : PagerDutyConfig
  deriving DecidableEq, Repr

structure NetworkConfig where
  TargetChain : String
  RPCPort : Int64
  deriving DecidableEq, Repr

structure InspectSchedule where
  BlockHeader : Int64
  NodeMetadata : Int64
  CxPending : Int64
  CrossLink : Int64
  deriving DecidableEq, Repr

structure PerformanceConfig where
  WorkerPoolSize : Int64
  HTTPTimeout : Int64
  deriving DecidableEq, Repr

structure HTTPReporterConfig where
  Port : Int64
  deriving DecidableEq, Repr

structure ConsensusConfig where
  Interval : Int64
  Warning : Int64
  deriving DecidableEq, Repr

structure WarningConfig where
  Warning : Int64
  deriving DecidableEq, Repr

structure ShardHealthReporting where
  Consensus : ConsensusConfig
  CxPending : WarningConfig
  CrossLink : WarningConfig
  ShardHeight : WarningConfig
  Connectivity : WarningConfig
  deriving DecidableEq, Repr

structure NodeDistribution where
  MachineIPList : List String
  deriving DecidableEq, Repr

structure WatchParams where
  Auth : AuthConfig
  Network : NetworkConfig
  InspectSchedule : InspectSchedule
  Performance : PerformanceConfig
  HTTPReporter : HTTPReporterConfig
  ShardHealthReporting : ShardHealthReporting
  DistributionFiles : NodeDistribution
  deriving DecidableEq, Repr

structure Committee where
  file : String
  members : List String
  deriving DecidableEq, Repr

def sanityChecks : List ((WatchParams → Int64) × String) :=
  [(fun w => w.Network.RPCPort, "Missing public-rpc under network-config in yaml config"),
   (fun w => w.InspectSchedule.BlockHeader, "Missing block-header under inspect-schedule in yaml config"),
   (fun w => w.InspectSchedule.NodeMetadata, "Missing node-metadata under inspect-schedule in yaml config"),
   (fun w => w.InspectSchedule.CxPending, "Missing cx-pending under inspect-schedule in yaml config"),
   (fun w => w.InspectSchedule.CrossLink, "Missing cross-link under inspect-schedule in yaml config"),
   (fun w => w.Performance.WorkerPoolSize, "Missing num-workers under performance in yaml config"),
   (fun w => w.Performance.HTTPTimeout, "Missing http-timeout under performance in yaml config"),
   (fun w => w.HTTPReporter.Port, "Missing port under http-reporter in yaml config"),
   (fun w => w.ShardHealthReporting.Consensus.Interval,
     "Missing warning under shard-health-reporting, interval in yaml config"),
   (fun w => w.ShardHealthReporting.Consensus.Warning,
     "Missing warning under shard-health-reporting, consensus in yaml config"),
   (fun w => w.ShardHealthReporting.CxPending.Warning,
     "Missing pending-limit under shard-health-reporting, cx-pending in yaml config"),
   (fun w => w.ShardHealthReporting.CrossLink.Warning,
     "Missing warning under shard-health-reporting, cross-link in yaml config"),
   (fun w => w.ShardHealthReporting.ShardHeight.Warning,
     "Missing tolerance under shard-health-reporting, shard-height in yaml config"),
   (fun w => w.ShardHealthReporting.Connectivity.Warning,
     "Missing tolerance under shard-health-reporting, connectivity in yaml config")]

def WatchParams.sanityCheck (fs : GoStd.FileSystem) (w : WatchParams) : Option String :=
  let errList := (sanityChecks.filterMap fun check => if check.1 w = 0 then some check.2 else none) ++
    w.DistributionFiles.MachineIPList.filterMap fun f =>
      if fs.statNotExist f then some ("File not found: " ++ f) else none
  if errList.length = 0 then none else some (String.intercalate "\n" errList)

def durationSeconds (d : Int64) : Int64 := d * 1000000000

inductive Launch where
  | worker
  | manager (interval tolerance : Int64) (shardMap : List (String × Int64)) (rpc pdServiceKey chain : String)
  | stakingCommitteeUpdate (beaconChainNode : String)
  | consensusMonitor (interval warning tolerance : UInt64) (poolSize : Int64) (pdServiceKey chain : String)
      (shardMap : List (String × Int64))
  | cxMonitor (interval limit : UInt64) (poolSize : Int64) (pdServiceKey chain : String)
      (shardMap : List (String × Int64))
  | crossLinkMonitor (interval warning : UInt64) (poolSize : Int64) (pdServiceKey chain : String)
      (shardMap : List (String × Int64))
  deriving DecidableEq, Repr

def committeeShardMap (ord : RangeOrder) (superCommittee : List (Int64 × Committee)) :
    List (String × Int64) :=
  (ord.arrange superCommittee).foldl
    (fun shardMap kv => kv.2.members.foldl (fun shardMap member => GoMap.set shardMap member kv.1) shardMap) []

def update (ord beaconOrd : RangeOrder) (params : WatchParams) (superCommittee : List (Int64 × Committee))
    (rpcs : List String) : List Launch :=
  let shardMap := committeeShardMap ord superCommittee
  let beaconChainNode := ((beaconOrd.arrange shardMap).find? fun kv => kv.2 = 0).elim "" Prod.fst
  let pool := params.Performance.WorkerPoolSize
  List.replicate pool.toInt.toNat .worker ++
  rpcs.flatMap fun rpc =>
    if rpc = NodeMetadataRPC then
      [.manager params.InspectSchedule.NodeMetadata params.ShardHealthReporting.Connectivity.Warning
        shardMap rpc params.Auth.PagerDuty.EventServiceKey params.Network.TargetChain]
    else if rpc = BlockHeaderRPC then
      [.manager params.InspectSchedule.BlockHeader 0 shardMap rpc "" "",
       .stakingCommitteeUpdate beaconChainNode,
       .consensusMonitor params.ShardHealthReporting.Consensus.Interval.toUInt64
         params.ShardHealthReporting.Consensus.Warning.toUInt64
         params.ShardHealthReporting.ShardHeight.Warning.toUInt64 pool
         params.Auth.PagerDuty.EventServiceKey params.Network.TargetChain shardMap,
       .cxMonitor params.InspectSchedule.CxPending.toUInt64 params.ShardHealthReporting.CxPending.Warning.toUInt64
         pool params.Auth.PagerDuty.EventServiceKey params.Network.TargetChain shardMap,
       .crossLinkMonitor params.InspectSchedule.CrossLink.toUInt64
         params.ShardHealthReporting.CrossLink.Warning.toUInt64 pool
         params.Auth.PagerDuty.EventServiceKey params.Network.TargetChain shardMap]
    else []

def Launch.tickPeriod : Launch → Option Int64
  | .manager interval .. => some (durationSeconds interval)
  | .consensusMonitor interval .. => some (durationSeconds interval.toInt64)
  | .cxMonitor interval .. => some (durationSeconds interval.toInt64)
  | .crossLinkMonitor interval .. => some (durationSeconds interval.toInt64)
  | _ => none

def dialTimeout (params : WatchParams) : Int64 := 1000000000 * params.Performance.HTTPTimeout

def sampleParams : WatchParams :=
  ⟨⟨⟨"YOUR_PAGERDUTY_KEY"⟩⟩, ⟨"mainnet", 9500⟩, ⟨15, 30, 300, 30⟩, ⟨32, 1⟩, ⟨8080⟩,
    ⟨⟨30, 70⟩, ⟨1000⟩, ⟨600⟩, ⟨1000⟩, ⟨33⟩⟩,
    ⟨["/home/ec2_user/mainnet/shard0.txt", "/home/ec2_user/mainnet/shard1.txt",
      "/home/ec2_user/mainnet/shard2.txt", "/home/ec2_user/mainnet/shard3.txt"]⟩⟩

def WatchParams.tickPeriods (w : WatchParams) : List (Int64 × Int64) :=
  [(w.InspectSchedule.NodeMetadata, durationSeconds w.InspectSchedule.NodeMetadata),
   (w.InspectSchedule.BlockHeader, durationSeconds w.InspectSchedule.BlockHeader),
   (w.ShardHealthReporting.Consensus.Interval,
     durationSeconds w.ShardHealthReporting.Consensus.Interval.toUInt64.toInt64),
   (w.InspectSchedule.CxPending, durationSeconds w.InspectSchedule.CxPending.toUInt64.toInt64),
   (w.InspectSchedule.CrossLink, durationSeconds w.InspectSchedule.CrossLink.toUInt64.toInt64),
   (w.Performance.HTTPTimeout, dialTimeout w)]

def WatchParams.thresholds (w : WatchParams) : List (Int64 × UInt64) :=
  [(w.ShardHealthReporting.Consensus.Warning, w.ShardHealthReporting.Consensus.Warning.toUInt64),
   (w.ShardHealthReporting.ShardHeight.Warning, w.ShardHealthReporting.ShardHeight.Warning.toUInt64),
   (w.ShardHealthReporting.CxPending.Warning, w.ShardHealthReporting.CxPending.Warning.toUInt64),
   (w.ShardHealthReporting.CrossLink.Warning, w.ShardHealthReporting.CrossLink.Warning.toUInt64)]

def TickSound (x period : Int64) : Prop := 0 < period.toInt ∧ period.toInt = x.toInt * 1000000000

def WatchParams.DerivedInRange (w : WatchParams) : Prop :=
  (∀ t ∈ w.tickPeriods, TickSound t.1 t.2) ∧ (∀ t ∈ w.thresholds, (t.2.toNat : Int) = t.1.toInt) ∧
    1 ≤ w.Performance.WorkerPoolSize.toInt

def WatchParams.InRange (w : WatchParams) : Prop :=
  (∀ t ∈ w.tickPeriods, 0 ≤ t.1.toInt ∧ t.1.toInt ≤ 9223372036) ∧ (∀ t ∈ w.thresholds, 0 ≤ t.1.toInt) ∧
    0 ≤ w.Performance.WorkerPoolSize.toInt

instance (x period : Int64) : Decidable (TickSound x period) :=
  inferInstanceAs (Decidable (0 < period.toInt ∧ period.toInt = x.toInt * 1000000000))

instance (w : WatchParams) : Decidable w.DerivedInRange :=
  inferInstanceAs (Decidable ((∀ t ∈ w.tickPeriods, TickSound t.1 t.2) ∧
    (∀ t ∈ w.thresholds, (t.2.toNat : Int) = t.1.toInt) ∧ 1 ≤ w.Performance.WorkerPoolSize.toInt))

section Sanity

variable (fs : GoStd.FileSystem) (w : WatchParams)

theorem sanityCheck_eq_none_iff :
    w.sanityCheck fs = none ↔ (∀ check ∈ sanityChecks, check.1 w ≠ 0) ∧
      ∀ f ∈ w.DistributionFiles.MachineIPList, fs.statNotExist f = false := by
  simp only [WatchParams.sanityCheck, List.length_eq_zero_iff, ite_eq_left_iff, reduceCtorEq,
    imp_false, not_not, List.append_eq_nil_iff, List.filterMap_eq_nil_iff]
  constructor
  · rintro ⟨hchecks, hfiles⟩
    exact ⟨fun c hc => by simpa using hchecks c hc, fun f hf => by simpa using hfiles f hf⟩
  · rintro ⟨hchecks, hfiles⟩
    exact ⟨fun c hc => by simp [hchecks c hc], fun f hf => by simp [hfiles f hf]⟩

theorem nonzero_of_sanityCheck (h : w.sanityCheck fs = none) :
    (∀ t ∈ w.tickPeriods, t.1 ≠ 0) ∧ (∀ t ∈ w.thresholds, t.1 ≠ 0) ∧
      w.Performance.WorkerPoolSize ≠ 0 := by
  have hchecks := ((sanityCheck_eq_none_iff fs w).mp h).1
  have hfields : ∀ x ∈ [w.Network.RPCPort, w.InspectSchedule.BlockHeader, w.InspectSchedule.NodeMetadata,
      w.InspectSchedule.CxPending, w.InspectSchedule.CrossLink, w.Performance.WorkerPoolSize,
      w.Performance.HTTPTimeout, w.HTTPReporter.Port, w.ShardHealthReporting.Consensus.Interval,
      w.ShardHealthReporting.Consensus.Warning, w.ShardHealthReporting.CxPending.Warning,
      w.ShardHealthReporting.CrossLink.Warning, w.ShardHealthReporting.ShardHeight.Warning,
      w.ShardHealthReporting.Connectivity.Warning], x ≠ 0 := by
    intro x hx
    obtain ⟨c, hc, rfl⟩ := List.mem_map.mp (show x ∈ sanityChecks.map (fun c => c.1 w) from hx)
    exact hchecks c hc
  refine ⟨fun t ht => ?_, fun t ht => ?_, hfields _ (by simp)⟩
  · simp only [WatchParams.tickPeriods, List.mem_cons, List.not_mem_nil, or_false] at ht
    rcases ht with rfl | rfl | rfl | rfl | rfl | rfl <;> exact hfields _ (by simp)
  · simp only [WatchParams.thresholds, List.mem_cons, List.not_mem_nil, or_false] at ht
    rcases ht with rfl | rfl | rfl | rfl <;> exact hfields _ (by simp)

end Sanity

theorem tickSound_iff {x : Int64} (hx : x ≠ 0) :
    TickSound x (durationSeconds x) ↔ 0 ≤ x.toInt ∧ x.toInt ≤ 9223372036 := by
  have hx' : x.toInt ≠ 0 := fun h => hx (Int64.toInt_inj.mp (h.trans Int64.toInt_zero.symm))
  constructor
  · rintro ⟨hpos, heq⟩
    have hlt := Int64.toInt_lt (durationSeconds x)
    rw [heq] at hpos hlt
    omega
  · rintro ⟨hlo, hhi⟩
    have heq := GoNumeric.toInt_mul_second x (by omega) hhi
    exact ⟨by rw [durationSeconds, heq]; omega, heq⟩

theorem threshold_exact_iff (x : Int64) : (x.toUInt64.toNat : Int) = x.toInt ↔ 0 ≤ x.toInt := by
  constructor
  · intro h
    rw [← h]
    exact Int.natCast_nonneg _
  · exact GoNumeric.toNat_toUInt64_of_nonneg x

theorem tickPeriods_eq (w : WatchParams) :
    w.tickPeriods = [w.InspectSchedule.NodeMetadata, w.InspectSchedule.BlockHeader,
      w.ShardHealthReporting.Consensus.Interval, w.InspectSchedule.CxPending, w.InspectSchedule.CrossLink,
      w.Performance.HTTPTimeout].map fun x => (x, durationSeconds x) := by
  simp [WatchParams.tickPeriods, dialTimeout, durationSeconds, Int64.mul_comm]

theorem thresholds_eq (w : WatchParams) :
    w.thresholds = [w.ShardHealthReporting.Consensus.Warning, w.ShardHealthReporting.ShardHeight.Warning,
      w.ShardHealthReporting.CxPending.Warning, w.ShardHealthReporting.CrossLink.Warning].map
        fun x => (x, x.toUInt64) := rfl

theorem tickPeriod_update (ord beaconOrd : RangeOrder) (w : WatchParams)
    (superCommittee : List (Int64 × Committee)) (rpcs : List String) :
    ∀ l ∈ update ord beaconOrd w superCommittee rpcs, ∀ p, l.tickPeriod = some p → ∃ t ∈ w.tickPeriods, t.2 = p := by
  intro l hl p hp
  simp only [update, List.mem_append, List.mem_replicate, List.mem_flatMap] at hl
  rcases hl with ⟨-, rfl⟩ | ⟨rpc, -, hl⟩
  · cases hp
  · have hmem : ∀ x ∈ [w.InspectSchedule.NodeMetadata, w.InspectSchedule.BlockHeader,
        w.ShardHealthReporting.Consensus.Interval, w.InspectSchedule.CxPending, w.InspectSchedule.CrossLink,
        w.Performance.HTTPTimeout], durationSeconds x = p → ∃ t ∈ w.tickPeriods, t.2 = p := by
      intro x hx hxp
      rw [tickPeriods_eq]
      exact ⟨(x, durationSeconds x), List.mem_map_of_mem hx, hxp⟩
    split at hl
    · simp only [List.mem_singleton] at hl
      subst hl
      exact hmem w.InspectSchedule.NodeMetadata (by simp) (by simpa [Launch.tickPeriod] using hp)
    · split at hl
      · simp only [List.mem_cons, List.not_mem_nil, or_false] at hl
        rcases hl with rfl | rfl | rfl | rfl | rfl
        · exact hmem w.InspectSchedule.BlockHeader (by simp) (by simpa [Launch.tickPeriod] using hp)
        · cases hp
        · exact hmem w.ShardHealthReporting.Consensus.Interval (by simp)
            (by simpa [Launch.tickPeriod] using hp)
        · exact hmem w.InspectSchedule.CxPending (by simp) (by simpa [Launch.tickPeriod] using hp)
        · exact hmem w.InspectSchedule.CrossLink (by simp) (by simpa [Launch.tickPeriod] using hp)
      · cases hl

theorem sanityCheck_derivedInRange (ord beaconOrd : RangeOrder) (fs : GoStd.FileSystem) (w : WatchParams)
    (superCommittee : List (Int64 × Committee)) (rpcs : List String) (h : w.sanityCheck fs = none) :
    (w.DerivedInRange ↔ w.InRange) ∧
      (w.InRange → ∀ l ∈ update ord beaconOrd w superCommittee rpcs, ∀ p, l.tickPeriod = some p → 0 < p.toInt) := by
  obtain ⟨hticks, hthr, hpool⟩ := nonzero_of_sanityCheck fs w h
  have hpool' : w.Performance.WorkerPoolSize.toInt ≠ 0 :=
    fun h0 => hpool (Int64.toInt_inj.mp (h0.trans Int64.toInt_zero.symm))
  rw [tickPeriods_eq] at hticks
  rw [thresholds_eq] at hthr
  have hiff : w.DerivedInRange ↔ w.InRange := by
    rw [WatchParams.DerivedInRange, WatchParams.InRange, tickPeriods_eq, thresholds_eq]
    simp only [List.forall_mem_map]
    refine and_congr ⟨fun H x hx => ?_, fun H x hx => ?_⟩ (and_congr ⟨fun H x hx => ?_, fun H x hx => ?_⟩ ?_)
    · exact (tickSound_iff (hticks _ (List.mem_map_of_mem hx))).mp (H x hx)
    · exact (tickSound_iff (hticks _ (List.mem_map_of_mem hx))).mpr (H x hx)
    · exact (threshold_exact_iff x).mp (H x hx)
    · exact (threshold_exact_iff x).mpr (H x hx)
    · omega
  refine ⟨hiff, fun hrange l hl p hp => ?_⟩
  obtain ⟨t, ht, rfl⟩ := tickPeriod_update ord beaconOrd w superCommittee rpcs l hl p hp
  exact ((hiff.mpr hrange).1 t ht).1

def presentFiles : GoStd.FileSystem :=
  ⟨fun _ => .ok [], fun _ => false, fun _ => none, fun _ => ([], none)⟩

theorem sanityCheck_derivedInRange_sample :
    sampleParams.sanityCheck presentFiles = none ∧
    (sampleParams.DerivedInRange ↔ sampleParams.InRange) ∧
      (sampleParams.InRange → ∀ l ∈ update RangeOrder.insertion RangeOrder.insertion sampleParams []
        [BlockHeaderRPC, NodeMetadataRPC], ∀ p, l.tickPeriod = some p → 0 < p.toInt) :=
  ⟨by decide, sanityCheck_derivedInRange RangeOrder.insertion RangeOrder.insertion presentFiles sampleParams []
    [BlockHeaderRPC, NodeMetadataRPC] (by decide)⟩

theorem sanityCheck_accepts_negative_period :
    ¬ ∀ (fs : GoStd.FileSystem) (w : WatchParams), w.sanityCheck fs = none → w.DerivedInRange := by
  intro h
  obtain ⟨hticks, -, -⟩ := h presentFiles { sampleParams with InspectSchedule :=
    { sampleParams.InspectSchedule with BlockHeader := -1 } } (by decide)
  have hsound := hticks (-1, durationSeconds (-1)) (by simp [WatchParams.tickPeriods])
  have hperiod := GoNumeric.toInt_mul_second (-1) (by decide) (by decide)
  rw [TickSound, durationSeconds, hperiod] at hsound
  exact absurd hsound.1 (by decide)

end Watchdog
