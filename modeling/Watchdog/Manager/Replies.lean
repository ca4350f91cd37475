import Mathlib
import Watchdog.Model.Monitor
import Watchdog.Foundations.GoMap

namespace Watchdog

open GoMap (RangeOrder)

def Monitor.bytesToNodeMetadata (decodeMetadata : Bytes → NodeMetadataReply)
    (decodeHeader : Bytes → BlockHeaderReply) (m : Monitor) (rpc addr : String) (payload : Bytes) :
    Monitor :=
  if rpc = NodeMetadataRPC then
    { m with WorkingMetadata := { m.WorkingMetadata with
        Nodes := m.WorkingMetadata.Nodes ++ [⟨decodeMetadata payload, addr⟩] } }
  else if rpc = BlockHeaderRPC then
    { m with WorkingBlockHeader := { m.WorkingBlockHeader with
        Nodes := m.WorkingBlockHeader.Nodes ++ [⟨decodeHeader payload, addr⟩] } }
  else m

def noReplyOf (shardMap : List (String × Int64)) (d : Reply) (oops : String) : NoReply :=
  ⟨d.address, oops, d.rpcPayload, GoMap.index shardMap d.address 0⟩

def managerReplyStep {N : Type} (get : Monitor → Container N) (put : Monitor → Container N → Monitor)
    (decodeMetadata : Bytes → NodeMetadataReply) (decodeHeader : Bytes → BlockHeaderReply)
    (shardMap : List (String × Int64)) (acc : Bool × Monitor) (d : Reply) : Bool × Monitor :=
  let (first, m) := acc
  let m := if first then put m { get m with Down := [], Nodes := [] } else m
  match d.oops with
  | some oops => (false, put m { get m with Down := (get m).Down ++ [noReplyOf shardMap d oops] })
  | none => (false, m.bytesToNodeMetadata decodeMetadata decodeHeader d.rpc d.address d.rpcResult)

def metadataReplyStep (decodeMetadata : Bytes → NodeMetadataReply)
    (decodeHeader : Bytes → BlockHeaderReply) (shardMap : List (String × Int64)) :
    Bool × Monitor → Reply → Bool × Monitor :=
  managerReplyStep Monitor.WorkingMetadata (fun m c => { m with WorkingMetadata := c })
    decodeMetadata decodeHeader shardMap

def blockHeaderReplyStep (decodeMetadata : Bytes → NodeMetadataReply)
    (decodeHeader : Bytes → BlockHeaderReply) (shardMap : List (String × Int64)) :
    Bool × Monitor → Reply → Bool × Monitor :=
  managerReplyStep Monitor.WorkingBlockHeader (fun m c => { m with WorkingBlockHeader := c })
    decodeMetadata decodeHeader shardMap

inductive ManagerEffect where
  | p2pMonitor (containerCopy : MetadataContainer)
  | stakingCommitteeUpdate (beaconChainNode : String)

def getBeaconChainNode (ord : RangeOrder) (shardMap : List (String × Int64)) : String :=
  ((ord.arrange shardMap).find? fun kv => kv.2 = 0).elim "" Prod.fst

def Monitor.managerRound (jobOrd beaconOrd : RangeOrder) (decodeMetadata : Bytes → NodeMetadataReply)
    (decodeHeader : Bytes → BlockHeaderReply) (rpc : String) (shardMap : List (String × Int64))
    (now : Int) (prevEpoch : UInt64) (m : Monitor) (replies : List Reply) :
    List String × Monitor × UInt64 × List ManagerEffect :=
  let jobs := (jobOrd.arrange shardMap).map Prod.fst
  if rpc = NodeMetadataRPC then
    let m := { m with WorkingMetadata := { m.WorkingMetadata with TS := now } }
    let m := (replies.foldl (metadataReplyStep decodeMetadata decodeHeader shardMap) (true, m)).2
    let containerCopy : MetadataContainer := { (Container.zero : MetadataContainer) with Nodes := m.WorkingMetadata.Nodes }
    (jobs, m.metadataCopy m.WorkingMetadata, prevEpoch, [.p2pMonitor containerCopy])
  else if rpc = BlockHeaderRPC then
    let m := { m with WorkingBlockHeader := { m.WorkingBlockHeader with TS := now } }
    let m := (replies.foldl (blockHeaderReplyStep decodeMetadata decodeHeader shardMap) (true, m)).2
    let (prevEpoch, effects) : UInt64 × List ManagerEffect :=
      match m.WorkingBlockHeader.Nodes.find? (fun n => n.Payload.ShardID = 0) with
      | some n =>
        if n.Payload.Epoch > prevEpoch then
          (n.Payload.Epoch, [.stakingCommitteeUpdate (getBeaconChainNode beaconOrd shardMap)])
        else (prevEpoch, [])
      | none => (prevEpoch, [])
    (jobs, m.blockHeaderCopy m.WorkingBlockHeader, prevEpoch, effects)
  else (jobs, m, prevEpoch, [])

def consensusReplyStep (decodeHeader : Bytes → BlockHeaderReply) (shardMap : List (String × Int64))
    (m : Monitor) (monitorData : BlockHeaderContainer) (d : Reply) : BlockHeaderContainer :=
  match d.oops with
  | some oops => { monitorData with Down := m.WorkingBlockHeader.Down ++ [noReplyOf shardMap d oops] }
  | none => { monitorData with Nodes := monitorData.Nodes ++ [⟨decodeHeader d.rpcResult, d.address⟩] }

def consensusReplies (decodeHeader : Bytes → BlockHeaderReply) (shardMap : List (String × Int64))
    (m : Monitor) (replies : List Reply) : BlockHeaderContainer :=
  replies.foldl (consensusReplyStep decodeHeader shardMap m) .zero

def successes {N : Type} (node : Reply → N) (replies : List Reply) : List N :=
  replies.filterMap fun d => if d.oops = none then some (node d) else none

def failures (shardMap : List (String × Int64)) (replies : List Reply) : List NoReply :=
  replies.filterMap fun d => d.oops.map (noReplyOf shardMap d)

section Fold

variable {N : Type} (node : Reply → N) (shardMap : List (String × Int64))

@[simp] theorem successes_nil : successes node [] = [] := rfl

@[simp] theorem failures_nil : failures shardMap [] = [] := rfl

theorem successes_cons (d : Reply) (replies : List Reply) :
    successes node (d :: replies) = (if d.oops = none then [node d] else []) ++ successes node replies := by
  cases h : d.oops <;> simp [successes, h]

theorem failures_cons (d : Reply) (replies : List Reply) :
    failures shardMap (d :: replies) = (d.oops.map (noReplyOf shardMap d)).toList ++ failures shardMap replies := by
  cases h : d.oops <;> simp [failures, h]

theorem successes_append (l₁ l₂ : List Reply) :
    successes node (l₁ ++ l₂) = successes node l₁ ++ successes node l₂ :=
  List.filterMap_append

theorem failures_append (l₁ l₂ : List Reply) :
    failures shardMap (l₁ ++ l₂) = failures shardMap l₁ ++ failures shardMap l₂ :=
  List.filterMap_append

variable (get : Monitor → Container N) (put : Monitor → Container N → Monitor)
  (decodeMetadata : Bytes → NodeMetadataReply) (decodeHeader : Bytes → BlockHeaderReply)

theorem managerReplyStep_spec (hget : ∀ m c, get (put m c) = c)
    (first : Bool) (m : Monitor) (d : Reply)
    (hsucc : d.oops = none → ∀ m, get (m.bytesToNodeMetadata decodeMetadata decodeHeader d.rpc d.address
      d.rpcResult) = { get m with Nodes := (get m).Nodes ++ [node d] }) :
    (managerReplyStep get put decodeMetadata decodeHeader shardMap (first, m) d).1 = false ∧
    get (managerReplyStep get put decodeMetadata decodeHeader shardMap (first, m) d).2 =
      let c := if first then { get m with Down := [], Nodes := [] } else get m
      ⟨c.TS, c.Nodes ++ successes node [d], c.Down ++ failures shardMap [d]⟩ := by
  have hreset : get (if first then put m { get m with Down := [], Nodes := [] } else m) =
      if first then { get m with Down := [], Nodes := [] } else get m := by
    cases first <;> simp [hget]
  cases hd : d.oops with
  | some oops =>
    simp [managerReplyStep, hd, hget, hreset, successes, failures]
  | none =>
    refine ⟨by simp [managerReplyStep, hd], ?_⟩
    simp only [managerReplyStep, hd]
    rw [hsucc hd, hreset]
    simp [successes, failures, hd]

theorem foldl_managerReplyStep (hget : ∀ m c, get (put m c) = c) :
    ∀ (replies : List Reply), (∀ d ∈ replies, d.oops = none → ∀ m, get (m.bytesToNodeMetadata
      decodeMetadata decodeHeader d.rpc d.address d.rpcResult) = { get m with Nodes := (get m).Nodes ++ [node d] }) →
      ∀ m, get (replies.foldl (managerReplyStep get put decodeMetadata decodeHeader shardMap) (false, m)).2 =
        ⟨(get m).TS, (get m).Nodes ++ successes node replies, (get m).Down ++ failures shardMap replies⟩ := by
  intro replies
  induction replies with
  | nil => intro _ m; simp
  | cons d replies ih =>
    intro hsucc m
    obtain ⟨hfirst, hget₁⟩ := managerReplyStep_spec node shardMap get put decodeMetadata decodeHeader hget
      false m d (hsucc d List.mem_cons_self)
    rw [List.foldl_cons, ← Prod.mk.eta (p := managerReplyStep get put decodeMetadata decodeHeader
      shardMap (false, m) d), hfirst, ih (fun d' hd' => hsucc d' (List.mem_cons_of_mem d hd')), hget₁]
    simp only [Bool.false_eq_true, if_false, List.append_assoc, ← successes_append, ← failures_append,
      List.singleton_append]

theorem managerReplies_spec (hget : ∀ m c, get (put m c) = c) (replies : List Reply) (hne : replies ≠ [])
    (hsucc : ∀ d ∈ replies, d.oops = none → ∀ m, get (m.bytesToNodeMetadata
      decodeMetadata decodeHeader d.rpc d.address d.rpcResult) = { get m with Nodes := (get m).Nodes ++ [node d] })
    (m : Monitor) :
    get (replies.foldl (managerReplyStep get put decodeMetadata decodeHeader shardMap) (true, m)).2 =
      ⟨(get m).TS, successes node replies, failures shardMap replies⟩ := by
  cases replies with
  | nil => exact absurd rfl hne
  | cons d replies =>
    obtain ⟨hfirst, hget₁⟩ := managerReplyStep_spec node shardMap get put decodeMetadata decodeHeader hget
      true m d (hsucc d List.mem_cons_self)
    rw [List.foldl_cons, ← Prod.mk.eta (p := managerReplyStep get put decodeMetadata decodeHeader
      shardMap (true, m) d), hfirst, foldl_managerReplyStep node shardMap get put decodeMetadata
      decodeHeader hget replies (fun d' hd' => hsucc d' (List.mem_cons_of_mem d hd')), hget₁]
    simp only [if_true, List.nil_append, ← successes_append, ← failures_append, List.singleton_append]

end Fold

section Members

variable (decodeMetadata : Bytes → NodeMetadataReply) (decodeHeader : Bytes → BlockHeaderReply)
  (shardMap : List (String × Int64))

theorem metadataReplies_spec (replies : List Reply) (hne : replies ≠ [])
    (hrpc : ∀ d ∈ replies, d.rpc = NodeMetadataRPC) (m : Monitor) :
    (replies.foldl (metadataReplyStep decodeMetadata decodeHeader shardMap) (true, m)).2.WorkingMetadata =
      ⟨m.WorkingMetadata.TS, successes (fun d => ⟨decodeMetadata d.rpcResult, d.address⟩) replies,
        failures shardMap replies⟩ := by
  refine managerReplies_spec _ shardMap _ _ decodeMetadata decodeHeader (fun _ _ => rfl) replies hne
    (fun d hd _ m => ?_) m
  simp [Monitor.bytesToNodeMetadata, hrpc d hd]

theorem blockHeaderReplies_spec (replies : List Reply) (hne : replies ≠ [])
    (hrpc : ∀ d ∈ replies, d.rpc = BlockHeaderRPC) (m : Monitor) :
    (replies.foldl (blockHeaderReplyStep decodeMetadata decodeHeader shardMap) (true, m)).2.WorkingBlockHeader =
      ⟨m.WorkingBlockHeader.TS, successes (fun d => ⟨decodeHeader d.rpcResult, d.address⟩) replies,
        failures shardMap replies⟩ := by
  have hne' : BlockHeaderRPC ≠ NodeMetadataRPC := by decide
  refine managerReplies_spec _ shardMap _ _ decodeMetadata decodeHeader (fun _ _ => rfl) replies hne
    (fun d hd _ m => ?_) m
  simp [Monitor.bytesToNodeMetadata, hrpc d hd, hne']

theorem foldl_consensusReplyStep (m : Monitor) :
    ∀ (replies : List Reply) (c : BlockHeaderContainer),
      replies.foldl (consensusReplyStep decodeHeader shardMap m) c =
        ⟨c.TS, c.Nodes ++ successes (fun d => ⟨decodeHeader d.rpcResult, d.address⟩) replies,
          ((failures shardMap replies).getLast?.map fun r => m.WorkingBlockHeader.Down ++ [r]).getD c.Down⟩ := by
  intro replies
  induction replies with
  | nil => intro c; simp
  | cons d replies ih =>
    intro c
    rw [List.foldl_cons, ih]
    cases hd : d.oops with
    | some oops =>
      cases hlast : (failures shardMap replies).getLast? with
      | none =>
        simp [consensusReplyStep, hd, successes_cons, failures_cons, List.getLast?_cons, hlast]
      | some r =>
        simp [consensusReplyStep, hd, successes_cons, failures_cons, List.getLast?_cons, hlast]
    | none =>
      simp [consensusReplyStep, hd, successes_cons, failures_cons]

theorem consensusReplies_spec (m : Monitor) (replies : List Reply) :
    (consensusReplies decodeHeader shardMap m replies).Nodes =
      successes (fun d => ⟨decodeHeader d.rpcResult, d.address⟩) replies ∧
    (consensusReplies decodeHeader shardMap m replies).Down =
      ((failures shardMap replies).getLast?.map fun r => m.WorkingBlockHeader.Down ++ [r]).getD [] := by
  rw [consensusReplies, foldl_consensusReplyStep]
  exact ⟨rfl, rfl⟩

end Members

theorem consensusReplies_two_failures (decodeHeader : Bytes → BlockHeaderReply) :
    (consensusReplies decodeHeader [("10.0.0.1:9500", 0), ("10.0.0.2:9500", 1)] (Monitor.init "mainnet")
      [⟨"10.0.0.1:9500", BlockHeaderRPC, [1], [], some "empty reply received"⟩,
       ⟨"10.0.0.2:9500", BlockHeaderRPC, [2], [], some "empty reply received"⟩]).Down =
      [⟨"10.0.0.2:9500", "empty reply received", [2], 1⟩] ∧
    (consensusReplies decodeHeader [("10.0.0.1:9500", 0), ("10.0.0.2:9500", 1)] (Monitor.init "mainnet")
      [⟨"10.0.0.1:9500", BlockHeaderRPC, [1], [], some "empty reply received"⟩,
       ⟨"10.0.0.2:9500", BlockHeaderRPC, [2], [], some "empty reply received"⟩]).Nodes.length +
    (consensusReplies decodeHeader [("10.0.0.1:9500", 0), ("10.0.0.2:9500", 1)] (Monitor.init "mainnet")
      [⟨"10.0.0.1:9500", BlockHeaderRPC, [1], [], some "empty reply received"⟩,
       ⟨"10.0.0.2:9500", BlockHeaderRPC, [2], [], some "empty reply received"⟩]).Down.length ≠ 2 := by
  refine ⟨rfl, ?_⟩
  simp [consensusReplies, consensusReplyStep, Container.zero, Monitor.init]

end Watchdog
