import Mathlib
import Watchdog.Report.Handlers

namespace Watchdog

open GoSlice (Panic)
open GoMap (RangeOrder)

def Monitor.networkSummaryMaps (q : Linq.Query) (m : Monitor) :
    Option (Monitor × Except Panic (List (String × Dict))) :=
  match m.critical (summarySection q) with
  | some (m₁, .ok sum) => (m₁.critical (progressSection sum)).map fun r => (r.1, r.2.map fun _ => sum)
  | r => r

def Monitor.statusSummaryMaps (q : Linq.Query) (m : Monitor) :
    Option (Monitor × Except Panic (List (String × Dict))) :=
  (m.critical (statusSection q)).map fun r => (r.1, r.2.map Prod.fst)

inductive Snapshot where
  | network
  | status
  deriving DecidableEq, Repr

def Snapshot.call (q : Linq.Query) : Snapshot → Monitor → Option (Monitor × Except Panic (List (String × Dict)))
  | .network, m => m.networkSummaryMaps q
  | .status, m => m.statusSummaryMaps q

def SameSummary (s t : List (String × Dict)) : Prop :=
  ∀ k k', (s.lookup k).map (List.lookup k') = (t.lookup k).map (List.lookup k')

def Monitor.shortenSigs (m : Monitor) : Monitor :=
  { m with BlockHeaderSnapshot :=
      { m.BlockHeaderSnapshot with Nodes := m.BlockHeaderSnapshot.Nodes.map shortenHeader } }

def Monitor.SigsFit (m : Monitor) : Prop :=
  ∀ n ∈ m.BlockHeaderSnapshot.Nodes, SigFits n.Payload.LastCommitSig

section Shorten

variable {m : Monitor}

theorem map_shortenHeader_idem {hs : List BlockHeader} (h : ∀ n ∈ hs, SigFits n.Payload.LastCommitSig) :
    (hs.map shortenHeader).map shortenHeader = hs.map shortenHeader := by
  rw [List.map_map]
  exact List.map_congr_left fun n hn => shortenHeader_shortenHeader (h n hn)

theorem sigsFit_shortenSigs (m : Monitor) : m.shortenSigs.SigsFit := by
  intro n hn
  obtain ⟨x, -, rfl⟩ := List.mem_map.mp hn
  exact sigFits_shortenHeader x

theorem shortenSigs_shortenSigs (h : m.SigsFit) : m.shortenSigs.shortenSigs = m.shortenSigs := by
  simp only [Monitor.shortenSigs, map_shortenHeader_idem h]

end Shorten

section Calls

variable {q : Linq.Query} {m : Monitor} {chain : Dict}

theorem summarySection_body (hchain : chainSummary q m.MetadataSnapshot.Nodes = .ok chain)
    (h : m.SigsFit) :
    (summarySection q).body m = (m.shortenSigs, .ok [(metaSumry, metaSummary q m.MetadataSnapshot.Nodes),
      (headerSumry, blockHeaderSummary q (m.BlockHeaderSnapshot.Nodes.map shortenHeader) true []),
      (chainSumry, chain), (committeeSumry, [])]) := by
  simp only [summarySection, summaryMaps_of_chain hchain h]
  rfl

theorem critical_progressSection (hq : q.Documented) {metas : List NodeMetadata} {headers : List BlockHeader}
    {sum : List (String × Dict)} (hsum : (summaryMaps q metas headers).2 = .ok sum) (hm : m.inUse = false) :
    ∃ x, m.critical (progressSection sum) = some (m, .ok x) := by
  have hok := progressSection_finishes (headerEntriesAny_summaryMaps hq hsum) { m with inUse := true }
  cases hb : ((progressSection sum).body { m with inUse := true }).2 with
  | error p =>
    rw [hb] at hok
    cases hok
  | ok x => exact ⟨x, critical_of_body hm (Prod.ext rfl hb) hm⟩

theorem critical_summarySection (hm : m.inUse = false)
    (hchain : chainSummary q m.MetadataSnapshot.Nodes = .ok chain) (h : m.SigsFit) :
    m.critical (summarySection q) = some (m.shortenSigs, .ok [(metaSumry, metaSummary q m.MetadataSnapshot.Nodes),
      (headerSumry, blockHeaderSummary q (m.BlockHeaderSnapshot.Nodes.map shortenHeader) true []),
      (chainSumry, chain), (committeeSumry, [])]) :=
  critical_of_body hm (summarySection_body (m := { m with inUse := true }) hchain h) hm

theorem critical_statusSection (hm : m.inUse = false)
    (hchain : chainSummary q m.MetadataSnapshot.Nodes = .ok chain) (h : m.SigsFit) :
    m.critical (statusSection q) = some (m.shortenSigs, .ok ([(metaSumry, metaSummary q m.MetadataSnapshot.Nodes),
      (headerSumry, blockHeaderSummary q (m.BlockHeaderSnapshot.Nodes.map shortenHeader) true []),
      (chainSumry, chain), (committeeSumry, [])], m.consensusProgress)) := by
  have hbody := summarySection_body (m := { m with inUse := true }) hchain h
  exact critical_of_body hm (by simp only [statusSection, hbody]; rfl) hm

theorem call_of_chain (hq : q.Documented) (hm : m.inUse = false)
    (hchain : chainSummary q m.MetadataSnapshot.Nodes = .ok chain) (h : m.SigsFit) (c : Snapshot) :
    c.call q m = some (m.shortenSigs, .ok [(metaSumry, metaSummary q m.MetadataSnapshot.Nodes),
      (headerSumry, blockHeaderSummary q (m.BlockHeaderSnapshot.Nodes.map shortenHeader) true []),
      (chainSumry, chain), (committeeSumry, [])]) := by
  cases c with
  | network =>
    obtain ⟨x, hx⟩ := critical_progressSection (m := m.shortenSigs) hq
      (congrArg Prod.snd (summaryMaps_of_chain hchain h)) hm
    simp only [Snapshot.call, Monitor.networkSummaryMaps, critical_summarySection hm hchain h, hx]
    rfl
  | status =>
    simp only [Snapshot.call, Monitor.statusSummaryMaps, critical_statusSection hm hchain h]
    rfl

end Calls

section Same

theorem sameSummary_cons {k : String} {d d' : Dict} {s t : List (String × Dict)}
    (hd : ∀ k', d.lookup k' = d'.lookup k') (h : SameSummary s t) :
    SameSummary ((k, d) :: s) ((k, d') :: t) := by
  intro k₁ k'
  rw [GoMap.lookup_cons_eq_ite, GoMap.lookup_cons_eq_ite]
  split_ifs
  · simp only [Option.map_some, hd]
  · exact h k₁ k'

variable {q₁ q₂ : Linq.Query} (hq₁ : q₁.Documented) (hq₂ : q₂.Documented)
include hq₁ hq₂

theorem sameSummary_summaryMaps {metas : List NodeMetadata} {chain₁ chain₂ : Dict}
    (h₁ : chainSummary q₁ metas = .ok chain₁) (h₂ : chainSummary q₂ metas = .ok chain₂)
    (headers : List BlockHeader) :
    SameSummary
      [(metaSumry, metaSummary q₁ metas), (headerSumry, blockHeaderSummary q₁ headers true []),
        (chainSumry, chain₁), (committeeSumry, [])]
      [(metaSumry, metaSummary q₂ metas), (headerSumry, blockHeaderSummary q₂ headers true []),
        (chainSumry, chain₂), (committeeSumry, [])] := by
  refine sameSummary_cons (lookup_metaSummary_congr hq₁ hq₂ metas) ?_
  refine sameSummary_cons (lookup_blockHeaderSummary_congr hq₁ hq₂ headers true []) ?_
  refine sameSummary_cons (lookup_chainSummary_congr hq₁ hq₂ h₁ h₂) ?_
  exact sameSummary_cons (fun _ => rfl) fun _ _ => rfl

end Same

theorem snapshot_stable (q₁ q₂ : Linq.Query) (hq₁ : q₁.Documented) (hq₂ : q₂.Documented)
    (c₁ c₂ : Snapshot) (m : Monitor) (hm : m.inUse = false)
    (hok : (summaryMaps q₁ m.MetadataSnapshot.Nodes m.BlockHeaderSnapshot.Nodes).2.toBool = true) :
    ∃ m₁ s₁ m₂ s₂, c₁.call q₁ m = some (m₁, .ok s₁) ∧ c₂.call q₂ m₁ = some (m₂, .ok s₂) ∧
      SameSummary s₁ s₂ ∧ m₂ = m₁ ∧
      m₁.BlockHeaderSnapshot.Nodes = m.BlockHeaderSnapshot.Nodes.map shortenHeader := by
  have h : m.SigsFit := (summaryMaps_ok_iff hq₁).mp hok
  obtain ⟨chain₁, hchain₁⟩ := chainSummary_ok hq₁ m.MetadataSnapshot.Nodes
  obtain ⟨chain₂, hchain₂⟩ := chainSummary_ok hq₂ m.MetadataSnapshot.Nodes
  have hcall₁ := call_of_chain hq₁ hm hchain₁ h c₁
  have hcall₂ := call_of_chain (m := m.shortenSigs) hq₂ hm hchain₂ (sigsFit_shortenSigs m) c₂
  rw [shortenSigs_shortenSigs h] at hcall₂
  have hheaders : m.shortenSigs.BlockHeaderSnapshot.Nodes.map shortenHeader =
      m.BlockHeaderSnapshot.Nodes.map shortenHeader :=
    map_shortenHeader_idem h
  rw [hheaders] at hcall₂
  exact ⟨_, _, _, _, hcall₁, hcall₂, sameSummary_summaryMaps hq₁ hq₂ hchain₁ hchain₂ _, rfl, rfl⟩

def sevenByteSigHeader : BlockHeader :=
  ⟨⟨"0xa", 7, 0, "one1a", 7, 2, "t0", 100, [1, 2, 3, 4, 5, 6, 7], "ff"⟩, "10.0.0.1:9500"⟩

theorem snapshot_stable_sevenByteSig :
    ∃ m₁ s₁ m₂ s₂,
      Snapshot.network.call .reference
          { Monitor.init "mainnet" with BlockHeaderSnapshot := ⟨GoNumeric.zeroTime, [sevenByteSigHeader], []⟩ } =
        some (m₁, .ok s₁) ∧
      Snapshot.status.call .reference m₁ = some (m₂, .ok s₂) ∧ SameSummary s₁ s₂ ∧ m₂ = m₁ ∧
      m₁.BlockHeaderSnapshot.Nodes = [sevenByteSigHeader].map shortenHeader :=
  snapshot_stable .reference .reference Linq.Query.reference_documented Linq.Query.reference_documented
    .network .status _ rfl (by rfl)

structure ShardStatus where
  ShardID : String
  Consensus : Bool
  Block : UInt64
  BlockTimestamp : String
  Epoch : UInt64
  LeaderAddress : String
  deriving DecidableEq, Repr

def shardStatusOf (cnsProgressCpy : List (String × Bool)) (i : String) (shard : GoValue) :
    Except Panic ShardStatus := do
  let sample ← (index (← shard.asAny) "latest-block").asBlockHeader
  let block ← (index (← shard.asAny) blockMax).asUInt64
  let epoch ← (index (← shard.asAny) "epoch-max").asUInt64
  pure ⟨i, GoMap.index cnsProgressCpy i false, block, sample.Payload.Timestamp, epoch, sample.Payload.Leader⟩

def statusRecords (ord : RangeOrder) (cnsProgressCpy : List (String × Bool)) (sum : List (String × Dict)) :
    Except Panic (List ShardStatus) :=
  (ord.arrange (GoMap.index sum headerSumry [])).mapM fun entry => shardStatusOf cnsProgressCpy entry.1 entry.2

structure StatusOf (cnsProgressCpy : List (String × Bool)) (group : List BlockHeader) (r : ShardStatus) :
    Prop where
  consensus : r.Consensus = GoMap.index cnsProgressCpy r.ShardID false
  block : IsMaxOf (blocks group) r.Block
  epoch : IsMaxOf (epochs group) r.Epoch
  sample : ∃ h, group.find? (fun c => c.Payload.BlockNumber = r.Block) = some h ∧
    r.BlockTimestamp = h.Payload.Timestamp ∧ r.LeaderAddress = h.Payload.Leader

section Status

variable {q : Linq.Query} (cnsProgressCpy : List (String × Bool))

theorem shardStatusOf_spec {group : List BlockHeader} {entry : Dict} (hsum : ShardSummary group entry)
    (i : String) :
    ∃ r, shardStatusOf cnsProgressCpy i (.anyMap entry) = .ok r ∧ r.ShardID = i ∧
      StatusOf cnsProgressCpy group r := by
  obtain ⟨mx, hmx, hmax, h, hfind, hlatest⟩ := hsum.block_max
  obtain ⟨emx, hemx, hemax⟩ := hsum.epoch_max
  refine ⟨⟨i, GoMap.index cnsProgressCpy i false, mx, h.Payload.Timestamp, emx, h.Payload.Leader⟩, ?_, rfl,
    ⟨rfl, hmax, hemax, h, hfind, rfl, rfl⟩⟩
  simp [shardStatusOf, GoValue.asAny, index, hlatest, hmx, hemx, GoValue.asBlockHeader, GoValue.asUInt64]

theorem statusRecords_summaryMaps (hq : q.Documented) (ord : RangeOrder) {metas : List NodeMetadata}
    {headers : List BlockHeader} {sum : List (String × Dict)} (hsum : (summaryMaps q metas headers).2 = .ok sum) :
    ∃ recs, statusRecords ord cnsProgressCpy sum = .ok recs ∧
      (recs.map ShardStatus.ShardID).Perm
        (((headers.map shortenHeader).map fun n => n.Payload.ShardID).eraseDups.map shardKey) ∧
      ∀ r ∈ recs, ∃ s, r.ShardID = shardKey s ∧
        StatusOf cnsProgressCpy ((headers.map shortenHeader).filter fun c => c.Payload.ShardID = s) r := by
  have hindex := index_headerSumry_summaryMaps hq hsum
  have hentry : ∀ x ∈ ord.arrange (GoMap.index sum headerSumry []), ∃ r,
      shardStatusOf cnsProgressCpy x.1 x.2 = .ok r ∧ r.ShardID = x.1 ∧ ∃ s, r.ShardID = shardKey s ∧
        StatusOf cnsProgressCpy ((headers.map shortenHeader).filter fun c => c.Payload.ShardID = s) r := by
    intro x hx
    rw [GoMap.RangeOrder.mem_arrange, hindex] at hx
    obtain ⟨s, hs, rfl⟩ := (mem_blockHeaderSummary_nil hq _).mp hx
    obtain ⟨c, hc, rfl⟩ := List.mem_map.mp hs
    have hne : (headers.map shortenHeader).filter (fun v => v.Payload.ShardID = c.Payload.ShardID) ≠ [] :=
      List.ne_nil_of_mem (List.mem_filter.mpr ⟨hc, by simp⟩)
    obtain ⟨r, hr, hid, hspec⟩ := shardStatusOf_spec cnsProgressCpy (shardEntry_spec hq hne)
      (shardKey c.Payload.ShardID)
    exact ⟨r, hr, hid, c.Payload.ShardID, hid, hspec⟩
  obtain ⟨recs, hrecs, hrel⟩ := GoStd.mapM_eq_ok_of_forall _ hentry
  refine ⟨recs, hrecs, ?_, fun r hr => ?_⟩
  · have hids : recs.map ShardStatus.ShardID = (ord.arrange (GoMap.index sum headerSumry [])).map Prod.fst :=
      GoStd.map_eq_of_forall₂ (hrel.imp fun _ _ h => h.1)
    have hkeys : (GoMap.index sum headerSumry []).map Prod.fst =
        ((q.groupBy (fun node : BlockHeader => node.Payload.ShardID) (headers.map shortenHeader)).map
          Prod.fst).map shardKey := by
      rw [hindex, blockHeaderSummary_nil hq, List.map_map, List.map_map]
      rfl
    rw [hids]
    refine ((ord.perm _).map Prod.fst).trans ?_
    rw [hkeys, ← Linq.keys_groups]
    exact ((hq.groupBy_perm _ _).map Prod.fst).map shardKey
  · obtain ⟨x, -, -, hspec⟩ := GoStd.exists_of_forall₂ hrel r hr
    exact hspec

end Status

end Watchdog
