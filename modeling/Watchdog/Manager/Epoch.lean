import Mathlib
import Watchdog.Manager.Replies
import Watchdog.Foundations.RunningMax

namespace Watchdog

open GoMap (RangeOrder)

def Monitor.managerRun (jobOrd beaconOrd : Nat → RangeOrder) (decodeMetadata : Bytes → NodeMetadataReply)
    (decodeHeader : Bytes → BlockHeaderReply) (rpc : String) (shardMap : List (String × Int64)) :
    UInt64 → Monitor → List (Int × List Reply) → Monitor × UInt64 × List (List ManagerEffect)
  | prevEpoch, m, [] => (m, prevEpoch, [])
  | prevEpoch, m, (now, replies) :: ticks =>
    let round := m.managerRound (jobOrd 0) (beaconOrd 0) decodeMetadata decodeHeader rpc shardMap now prevEpoch
      replies
    let rest := managerRun (fun i => jobOrd (i + 1)) (fun i => beaconOrd (i + 1)) decodeMetadata decodeHeader rpc
      shardMap round.2.2.1 round.2.1 ticks
    (rest.1, rest.2.1, round.2.2.2 :: rest.2.2)

def firstBeaconEpoch (decodeHeader : Bytes → BlockHeaderReply) (replies : List Reply) : Option UInt64 :=
  ((successes (fun d => (⟨decodeHeader d.rpcResult, d.address⟩ : BlockHeader)) replies).find?
    fun n => n.Payload.ShardID = 0).map fun n => n.Payload.Epoch

def beaconEpochs (decodeHeader : Bytes → BlockHeaderReply) (ticks : List (Int × List Reply)) :
    List (Option UInt64) :=
  ticks.map fun t => firstBeaconEpoch decodeHeader t.2

theorem beaconEpochs_cons (decodeHeader : Bytes → BlockHeaderReply) (t : Int × List Reply)
    (ticks : List (Int × List Reply)) :
    beaconEpochs decodeHeader (t :: ticks) = firstBeaconEpoch decodeHeader t.2 :: beaconEpochs decodeHeader ticks :=
  rfl

def committeeUpdate (beaconOrd : RangeOrder) (shardMap : List (String × Int64)) :
    Option UInt64 → List ManagerEffect
  | some _ => [.stakingCommitteeUpdate (getBeaconChainNode beaconOrd shardMap)]
  | none => []

theorem getBeaconChainNode_mem (ord : RangeOrder) {shardMap : List (String × Int64)}
    (h : ∃ k, (k, (0 : Int64)) ∈ shardMap) : (getBeaconChainNode ord shardMap, (0 : Int64)) ∈ shardMap := by
  obtain ⟨k, hk⟩ := h
  cases hfind : (ord.arrange shardMap).find? (fun kv => kv.2 = 0) with
  | none =>
    have hnot := List.find?_eq_none.mp hfind (k, 0) ((ord.mem_arrange).mpr hk)
    simp at hnot
  | some kv =>
    have hkv := List.find?_some hfind
    have hmem := (ord.mem_arrange).mp (List.mem_of_find?_eq_some hfind)
    simp only [decide_eq_true_eq] at hkv
    rw [getBeaconChainNode, hfind, Option.elim_some, ← hkv]
    exact hmem

section Rounds

variable (decodeMetadata : Bytes → NodeMetadataReply) (decodeHeader : Bytes → BlockHeaderReply)
  (shardMap : List (String × Int64))

theorem managerRound_blockHeader (jobOrd beaconOrd : RangeOrder) {replies : List Reply} (hne : replies ≠ [])
    (hrpc : ∀ d ∈ replies, d.rpc = BlockHeaderRPC) (now : Int) (prevEpoch : UInt64) (m : Monitor) :
    (m.managerRound jobOrd beaconOrd decodeMetadata decodeHeader BlockHeaderRPC shardMap now prevEpoch
        replies).2.2.1 =
      (RunningMax.step prevEpoch (firstBeaconEpoch decodeHeader replies)).1 ∧
    (m.managerRound jobOrd beaconOrd decodeMetadata decodeHeader BlockHeaderRPC shardMap now prevEpoch
        replies).2.2.2 =
      committeeUpdate beaconOrd shardMap
        (RunningMax.step prevEpoch (firstBeaconEpoch decodeHeader replies)).2 := by
  have hne' : BlockHeaderRPC ≠ NodeMetadataRPC := by decide
  have hnodes := congrArg Container.Nodes (blockHeaderReplies_spec decodeMetadata decodeHeader
    shardMap replies hne hrpc { m with WorkingBlockHeader := { m.WorkingBlockHeader with TS := now } })
  simp only [Monitor.managerRound, hne', if_false, if_true] at hnodes ⊢
  rw [hnodes, firstBeaconEpoch]
  cases (successes (fun d => (⟨decodeHeader d.rpcResult, d.address⟩ : BlockHeader)) replies).find?
      (fun n => n.Payload.ShardID = 0) with
  | none => simp [RunningMax.step, committeeUpdate]
  | some n =>
    by_cases h : prevEpoch < n.Payload.Epoch <;> simp [RunningMax.step, h, committeeUpdate]

theorem managerRun_blockHeader :
    ∀ (jobOrd beaconOrd : Nat → RangeOrder) (ticks : List (Int × List Reply)),
      (∀ t ∈ ticks, t.2 ≠ [] ∧ ∀ d ∈ t.2, d.rpc = BlockHeaderRPC) →
      ∀ (prevEpoch : UInt64) (m : Monitor),
        (m.managerRun jobOrd beaconOrd decodeMetadata decodeHeader BlockHeaderRPC shardMap prevEpoch
            ticks).2.1 = (RunningMax.scan prevEpoch (beaconEpochs decodeHeader ticks)).1 ∧
        (m.managerRun jobOrd beaconOrd decodeMetadata decodeHeader BlockHeaderRPC shardMap prevEpoch
            ticks).2.2 =
          (RunningMax.scan prevEpoch (beaconEpochs decodeHeader ticks)).2.mapIdx
            fun i e => committeeUpdate (beaconOrd i) shardMap e
  | _, _, [], _, prevEpoch, m => ⟨rfl, rfl⟩
  | jobOrd, beaconOrd, (now, replies) :: ticks, hticks, prevEpoch, m => by
    obtain ⟨hne, hrpc⟩ : replies ≠ [] ∧ ∀ d ∈ replies, d.rpc = BlockHeaderRPC :=
      hticks (now, replies) List.mem_cons_self
    obtain ⟨hepoch, heffects⟩ := managerRound_blockHeader decodeMetadata decodeHeader shardMap (jobOrd 0)
      (beaconOrd 0) hne hrpc now prevEpoch m
    obtain ⟨ih₁, ih₂⟩ := managerRun_blockHeader (fun i => jobOrd (i + 1)) (fun i => beaconOrd (i + 1)) ticks
      (fun t ht => hticks t (List.mem_cons_of_mem _ ht)) _ _
    simp only [Monitor.managerRun, beaconEpochs_cons, RunningMax.scan_cons, List.mapIdx_cons]
    rw [← hepoch]
    exact ⟨ih₁, by rw [heffects, ih₂]⟩

theorem managerRun_committeeUpdates (jobOrd beaconOrd : Nat → RangeOrder) (prevEpoch : UInt64) (m : Monitor)
    (ticks : List (Int × List Reply)) (hticks : ∀ t ∈ ticks, t.2 ≠ [] ∧ ∀ d ∈ t.2, d.rpc = BlockHeaderRPC) :
    ∃ launched : List (Option UInt64), launched.length = ticks.length ∧
      (m.managerRun jobOrd beaconOrd decodeMetadata decodeHeader BlockHeaderRPC shardMap prevEpoch ticks).2.2 =
        launched.mapIdx (fun i e => committeeUpdate (beaconOrd i) shardMap e) ∧
      (∀ (i : ℕ) (e : UInt64), launched[i]? = some (some e) ↔
        (beaconEpochs decodeHeader ticks)[i]? = some (some e) ∧ prevEpoch < e ∧
          ∀ j < i, ∀ e', (beaconEpochs decodeHeader ticks)[j]? = some (some e') → e' < e) ∧
      launched.reduceOption.Pairwise (· < ·) ∧
      (m.managerRun jobOrd beaconOrd decodeMetadata decodeHeader BlockHeaderRPC shardMap prevEpoch
        ticks).2.1 = (launched.reduceOption.getLast?).getD prevEpoch := by
  obtain ⟨hepoch, heffects⟩ := managerRun_blockHeader decodeMetadata decodeHeader shardMap jobOrd beaconOrd
    ticks hticks prevEpoch m
  refine ⟨(RunningMax.scan prevEpoch (beaconEpochs decodeHeader ticks)).2, ?_, heffects,
    RunningMax.getElem?_scan _ _, RunningMax.records_pairwise _ _, ?_⟩
  · rw [RunningMax.length_scan, beaconEpochs, List.length_map]
  · rw [hepoch, RunningMax.scan_fst_eq_getLast]

end Rounds

def validatorMetadata : NodeMetadataReply :=
  ⟨[], "v1", "mainnet", false, 0, "Validator", 16384, "t.hmny.io", false, ⟨1, 2, 2, 0, 185, 0, 186⟩⟩

def epochHeader (b : Bytes) : BlockHeaderReply := ⟨"0x1", 10, 0, "one1leader", 3, (b.headD 0).toUInt64, "", 0, [], ""⟩

def twoBeaconRounds : List (Int × List Reply) :=
  [(0, [⟨"10.0.0.1:9500", BlockHeaderRPC, [], [5], none⟩]), (1, [⟨"10.0.0.2:9500", BlockHeaderRPC, [], [6], none⟩])]

def twoBeaconNodes : List (String × Int64) := [("10.0.0.1:9500", 0), ("10.0.0.2:9500", 0)]

def swapAfterFirst : Nat → RangeOrder
  | 0 => .insertion
  | _ => ⟨List.reverse, List.reverse_perm⟩

theorem managerRun_committeeUpdates_twoRounds :
    (∀ t ∈ twoBeaconRounds, t.2 ≠ [] ∧ ∀ d ∈ t.2, d.rpc = BlockHeaderRPC) ∧
    ∃ launched : List (Option UInt64), launched.length = twoBeaconRounds.length ∧
      ((Monitor.init "mainnet").managerRun (fun _ => .insertion) swapAfterFirst (fun _ => validatorMetadata)
          epochHeader BlockHeaderRPC twoBeaconNodes 0 twoBeaconRounds).2.2 =
        launched.mapIdx (fun i e => committeeUpdate (swapAfterFirst i) twoBeaconNodes e) ∧
      (∀ (i : ℕ) (e : UInt64), launched[i]? = some (some e) ↔
        (beaconEpochs epochHeader twoBeaconRounds)[i]? = some (some e) ∧ (0 : UInt64) < e ∧
          ∀ j < i, ∀ e', (beaconEpochs epochHeader twoBeaconRounds)[j]? = some (some e') →
            e' < e) ∧
      launched.reduceOption.Pairwise (· < ·) ∧
      ((Monitor.init "mainnet").managerRun (fun _ => .insertion) swapAfterFirst (fun _ => validatorMetadata)
          epochHeader BlockHeaderRPC twoBeaconNodes 0 twoBeaconRounds).2.1 =
        (launched.reduceOption.getLast?).getD (0 : UInt64) := by
  have hticks : ∀ t ∈ twoBeaconRounds, t.2 ≠ [] ∧ ∀ d ∈ t.2, d.rpc = BlockHeaderRPC := by
    simp [twoBeaconRounds]
  exact ⟨hticks, managerRun_committeeUpdates (fun _ => validatorMetadata) epochHeader
    twoBeaconNodes (fun _ => .insertion) swapAfterFirst 0 (Monitor.init "mainnet") twoBeaconRounds hticks⟩

example : ((Monitor.init "mainnet").managerRun (fun _ => .insertion) swapAfterFirst (fun _ => validatorMetadata)
    epochHeader BlockHeaderRPC twoBeaconNodes 0 twoBeaconRounds).2.2 =
      [[.stakingCommitteeUpdate "10.0.0.1:9500"], [.stakingCommitteeUpdate "10.0.0.2:9500"]] := by
  rfl

end Watchdog
