import Mathlib
import Watchdog.Report.Network

namespace Watchdog

open GoSlice (Panic)
open GoMap (RangeOrder)

structure CommitteeMember where
  Address : String
  IsHarmonyNode : Bool
  deriving DecidableEq, Repr

structure CommitteeInfo where
  Committee : List CommitteeMember
  deriving DecidableEq, Repr

structure CurrentCommittee where
  Deciders : List (String × CommitteeInfo)
  ExternalCount : Int64
  deriving DecidableEq, Repr

structure StatusReport where
  Shards : List ShardStatus
  Versions : List String
  AvailSeats : Int64
  ElectedSeats : Int64
  Validators : Int64

def seatStep (acc : List String × Int64) (v : CommitteeMember) : List String × Int64 :=
  if !v.IsHarmonyNode then (acc.1 ++ [v.Address], acc.2 + 1) else acc

def committeeSeats (ord : RangeOrder) (deciders : List (String × CommitteeInfo)) : List String × Int64 :=
  (ord.arrange deciders).foldl (fun acc info => info.2.Committee.foldl seatStep acc) ([], 0)

def Monitor.statusReport (q : Linq.Query) (statusOrd versionOrd decidersOrd : RangeOrder)
    (current : CurrentCommittee) (m : Monitor) : Option (Monitor × Except Panic StatusReport) :=
  match m.critical (statusSection q) with
  | some (m₁, .ok (sum, cnsProgressCpy)) =>
    some (m₁, (statusRecords statusOrd cnsProgressCpy sum).map fun status =>
      let versions := (versionOrd.arrange (GoMap.index sum metaSumry [])).map Prod.fst
      let seats := committeeSeats decidersOrd current.Deciders
      ⟨status, versions, current.ExternalCount, seats.2, Int64.ofNat (q.distinct seats.1).length⟩)
  | some (m₁, .error p) => some (m₁, .error p)
  | none => none

def electedMembers (deciders : List (String × CommitteeInfo)) : List CommitteeMember :=
  (deciders.flatMap fun info => info.2.Committee).filter fun v => !v.IsHarmonyNode

structure StatusSpec (m : Monitor) (current : CurrentCommittee) (r : StatusReport) : Prop where
  shards : (r.Shards.map ShardStatus.ShardID).Perm
    (((m.BlockHeaderSnapshot.Nodes.map shortenHeader).map fun n => n.Payload.ShardID).eraseDups.map shardKey)
  records : ∀ s ∈ r.Shards, ∃ sh, s.ShardID = shardKey sh ∧
    StatusOf m.consensusProgress ((m.BlockHeaderSnapshot.Nodes.map shortenHeader).filter
      fun c => c.Payload.ShardID = sh) s
  versions : r.Versions.Perm (m.MetadataSnapshot.Nodes.map fun n => n.Payload.Version).eraseDups
  availSeats : r.AvailSeats = current.ExternalCount
  electedSeats : r.ElectedSeats = Int64.ofNat (electedMembers current.Deciders).length
  validators : r.Validators =
    Int64.ofNat ((electedMembers current.Deciders).map CommitteeMember.Address).toFinset.card

section Seats

theorem foldl_seatStep (members : List CommitteeMember) (acc : List String × Int64) :
    members.foldl seatStep acc =
      (acc.1 ++ (members.filter fun v => !v.IsHarmonyNode).map CommitteeMember.Address,
        acc.2 + Int64.ofNat (members.filter fun v => !v.IsHarmonyNode).length) := by
  induction members generalizing acc with
  | nil => simp
  | cons v members ih =>
    rw [List.foldl_cons, ih]
    cases hv : v.IsHarmonyNode
    · simp only [seatStep, hv, Bool.not_false, if_true, List.filter_cons_of_pos, List.map_cons,
        List.length_cons, Int64.ofNat_add, List.append_assoc, List.singleton_append]
      rw [Int64.add_assoc, Int64.add_comm 1]
      rfl
    · simp [seatStep, hv]

theorem committeeSeats_spec (ord : RangeOrder) (deciders : List (String × CommitteeInfo)) :
    ((committeeSeats ord deciders).1.Perm ((electedMembers deciders).map CommitteeMember.Address)) ∧
      (committeeSeats ord deciders).2 = Int64.ofNat (electedMembers deciders).length := by
  have hperm : (electedMembers (ord.arrange deciders)).Perm (electedMembers deciders) :=
    ((ord.perm deciders).flatMap_right _).filter _
  have hseats : committeeSeats ord deciders =
      ((electedMembers (ord.arrange deciders)).map CommitteeMember.Address,
        Int64.ofNat (electedMembers (ord.arrange deciders)).length) := by
    rw [committeeSeats, ← List.foldl_flatMap, foldl_seatStep]
    simp [electedMembers]
  rw [hseats]
  exact ⟨hperm.map _, by rw [hperm.length_eq]⟩

end Seats

section Versions

variable {q : Linq.Query}

theorem versions_summaryMaps (hq : q.Documented) (ord : RangeOrder) {metas : List NodeMetadata}
    {headers : List BlockHeader} {sum : List (String × Dict)} (hsum : (summaryMaps q metas headers).2 = .ok sum) :
    ((ord.arrange (GoMap.index sum metaSumry [])).map Prod.fst).Perm
      (metas.map fun n => n.Payload.Version).eraseDups := by
  have hkeys : (GoMap.index sum metaSumry []).map Prod.fst =
      (q.groupBy (fun node : NodeMetadata => node.Payload.Version) metas).map Prod.fst := by
    rw [index_metaSumry_summaryMaps hq hsum, metaSummary_eq hq, List.map_map]
    rfl
  refine ((ord.perm _).map Prod.fst).trans ?_
  rw [hkeys, ← Linq.keys_groups]
  exact (hq.groupBy_perm _ metas).map Prod.fst

end Versions

theorem statusReport_of_section {q : Linq.Query} {statusOrd versionOrd decidersOrd : RangeOrder}
    {current : CurrentCommittee} {m m' : Monitor} {sum : List (String × Dict)} {cns : List (String × Bool)}
    {recs : List ShardStatus} (hsec : m.critical (statusSection q) = some (m', .ok (sum, cns)))
    (hrecs : statusRecords statusOrd cns sum = .ok recs) :
    m.statusReport q statusOrd versionOrd decidersOrd current = some (m', .ok ⟨recs,
      (versionOrd.arrange (GoMap.index sum metaSumry [])).map Prod.fst, current.ExternalCount,
      (committeeSeats decidersOrd current.Deciders).2,
      Int64.ofNat (q.distinct (committeeSeats decidersOrd current.Deciders).1).length⟩) := by
  simp only [Monitor.statusReport, hsec, hrecs]
  rfl

theorem statusReport_spec {q : Linq.Query} (hq : q.Documented) (statusOrd versionOrd decidersOrd : RangeOrder)
    (current : CurrentCommittee) (m : Monitor) (hm : m.inUse = false)
    (hok : (summaryMaps q m.MetadataSnapshot.Nodes m.BlockHeaderSnapshot.Nodes).2.toBool = true) :
    ∃ r, m.statusReport q statusOrd versionOrd decidersOrd current = some (m.shortenSigs, .ok r) ∧
      StatusSpec m current r := by
  have h : m.SigsFit := (summaryMaps_ok_iff hq).mp hok
  obtain ⟨chain, hchain⟩ := chainSummary_ok hq m.MetadataSnapshot.Nodes
  have hsum := congrArg Prod.snd (summaryMaps_of_chain hchain h)
  have hstatus := critical_statusSection hm hchain h
  obtain ⟨recs, hrecs, hshards, hrecords⟩ := statusRecords_summaryMaps m.consensusProgress hq statusOrd hsum
  obtain ⟨haddrs, hseats⟩ := committeeSeats_spec decidersOrd current.Deciders
  refine ⟨_, statusReport_of_section hstatus hrecs,
    ⟨hshards, hrecords, versions_summaryMaps hq versionOrd hsum, rfl, hseats, ?_⟩⟩
  show Int64.ofNat (q.distinct (committeeSeats decidersOrd current.Deciders).1).length = _
  rw [hq.distinct_eq, Linq.length_eraseDups, List.toFinset_eq_of_perm _ _ haddrs]

def twoSeatCommittee : CurrentCommittee :=
  ⟨[("shard-0", ⟨[⟨"one1a", false⟩, ⟨"one1a", false⟩, ⟨"one1h", true⟩]⟩)], 2⟩

theorem statusReport_spec_twoSeatCommittee :
    ∃ r, sevenByteSigMonitor.statusReport .reference .insertion .insertion .insertion twoSeatCommittee =
        some (sevenByteSigMonitor.shortenSigs, .ok r) ∧
      StatusSpec sevenByteSigMonitor twoSeatCommittee r :=
  statusReport_spec Linq.Query.reference_documented .insertion .insertion .insertion twoSeatCommittee
    sevenByteSigMonitor rfl (by rfl)

structure SameShard (cnsProgress : List (String × Bool)) (sum : List (String × Dict)) (r : ShardStatus) :
    Prop where
  consensus : r.Consensus = GoMap.index cnsProgress r.ShardID false
  entry : ∃ e h, index (GoMap.index sum headerSumry []) r.ShardID = .anyMap e ∧
    e.lookup blockMax = some (.uint64 r.Block) ∧ e.lookup "epoch-max" = some (.uint64 r.Epoch) ∧
    e.lookup "latest-block" = some (.blockHeader h) ∧
    h.Payload.Timestamp = r.BlockTimestamp ∧ h.Payload.Leader = r.LeaderAddress

section Agreement

variable {q : Linq.Query}

theorem sameShard_of_summary {cns : List (String × Bool)} {group : List BlockHeader} {r : ShardStatus}
    {e : Dict} (hof : StatusOf cns group r) (hsumm : ShardSummary group e) :
    e.lookup blockMax = some (.uint64 r.Block) ∧ e.lookup "epoch-max" = some (.uint64 r.Epoch) ∧
      ∃ h, e.lookup "latest-block" = some (.blockHeader h) ∧
        h.Payload.Timestamp = r.BlockTimestamp ∧ h.Payload.Leader = r.LeaderAddress := by
  obtain ⟨mx, hmx, hmax, h, hfind, hlatest⟩ := hsumm.block_max
  obtain ⟨emx, hemx, hemax⟩ := hsumm.epoch_max
  obtain ⟨h', hfind', hts, hleader⟩ := hof.sample
  obtain rfl : mx = r.Block := isMaxOf_unique hmax hof.block
  obtain rfl : emx = r.Epoch := isMaxOf_unique hemax hof.epoch
  obtain rfl : h = h' := Option.some.inj (hfind.symm.trans hfind')
  exact ⟨hmx, hemx, h, hlatest, hts.symm, hleader.symm⟩

end Agreement

theorem statusReport_agrees_networkReport {q : Linq.Query} (hq : q.Documented)
    (statusOrd versionOrd decidersOrd metaOrd leaderOrd : RangeOrder) (current : CurrentCommittee)
    (buildVersion : String) (m : Monitor) (hm : m.inUse = false)
    (hok : (summaryMaps q m.MetadataSnapshot.Nodes m.BlockHeaderSnapshot.Nodes).2.toBool = true) :
    ∃ status net, m.statusReport q statusOrd versionOrd decidersOrd current = some (m.shortenSigs, .ok status) ∧
      m.shortenSigs.networkReport q metaOrd leaderOrd buildVersion = some (m.shortenSigs, .ok net) ∧
      (∀ r ∈ status.Shards, SameShard net.ConsensusProgress net.Summary r) ∧
      ∀ k, (index (GoMap.index net.Summary headerSumry []) k).isNil = false → ∃ r ∈ status.Shards, r.ShardID = k := by
  have h : m.SigsFit := (summaryMaps_ok_iff hq).mp hok
  obtain ⟨chain, hchain⟩ := chainSummary_ok hq m.MetadataSnapshot.Nodes
  have hsum := congrArg Prod.snd (summaryMaps_of_chain hchain h)
  obtain ⟨recs, hrecs, hshards, hrecords⟩ := statusRecords_summaryMaps m.consensusProgress hq statusOrd hsum
  have hok₁ : (summaryMaps q m.shortenSigs.MetadataSnapshot.Nodes m.shortenSigs.BlockHeaderSnapshot.Nodes).2.toBool =
      true := (summaryMaps_ok_iff hq).mpr (sigsFit_shortenSigs m)
  obtain ⟨sum₀, sum, hsum₀, hnet, hspec⟩ := networkReport_ok (m := m.shortenSigs) hq metaOrd leaderOrd buildVersion hm hok₁
  rw [shortenSigs_shortenSigs h] at hnet
  have hidem : m.shortenSigs.BlockHeaderSnapshot.Nodes.map shortenHeader = m.BlockHeaderSnapshot.Nodes.map shortenHeader :=
    map_shortenHeader_idem h
  refine ⟨_, _, statusReport_of_section (critical_statusSection hm hchain h) hrecs, hnet, fun r hr => ?_, fun k hk => ?_⟩
  · obtain ⟨s, hid, hof⟩ := hrecords r hr
    obtain ⟨c, hc, -⟩ := List.mem_map.mp hof.block.1
    obtain ⟨hcmem, hcs⟩ := List.mem_filter.mp hc
    have hcs' : c.Payload.ShardID = s := of_decide_eq_true hcs
    obtain ⟨e, he, hsumm⟩ := shardSummary_summaryMaps hq hsum₀ (n := c) (by rw [hidem]; exact hcmem)
    rw [hidem, hcs'] at hsumm
    rw [hcs', ← hid] at he
    obtain ⟨hbm, hem, hl, hlatest, hts, hleader⟩ := sameShard_of_summary hof hsumm
    obtain ⟨e', he', hother, -, -⟩ := hspec.entry _ e he
    refine ⟨hof.consensus, e', hl, he', ?_, ?_, ?_, hts, hleader⟩
    · rw [hother blockMax (by decide) (by decide), hbm]
    · rw [hother "epoch-max" (by decide) (by decide), hem]
    · rw [hother "latest-block" (by decide) (by decide), hlatest]
  · have hne : index (GoMap.index sum₀ headerSumry []) k ≠ .nil := fun hnil => by
      rw [hspec.absent k hnil] at hk
      cases hk
    obtain ⟨s, hs, hk'⟩ := shardKey_of_summaryMaps hq hsum₀ hne
    rw [hidem] at hs
    have hmem : shardKey s ∈ recs.map ShardStatus.ShardID :=
      hshards.mem_iff.mpr (List.mem_map_of_mem (List.mem_eraseDups.mpr hs))
    obtain ⟨r, hr, hrid⟩ := List.mem_map.mp hmem
    exact ⟨r, hr, hrid.trans hk'.symm⟩

theorem statusReport_agrees_networkReport_sevenByteSig :
    ∃ status net, sevenByteSigMonitor.statusReport .reference .insertion .insertion .insertion twoSeatCommittee =
        some (sevenByteSigMonitor.shortenSigs, .ok status) ∧
      sevenByteSigMonitor.shortenSigs.networkReport .reference .insertion .insertion "v1" =
        some (sevenByteSigMonitor.shortenSigs, .ok net) ∧
      (∀ r ∈ status.Shards, SameShard net.ConsensusProgress net.Summary r) ∧
      ∀ k, (index (GoMap.index net.Summary headerSumry []) k).isNil = false → ∃ r ∈ status.Shards, r.ShardID = k :=
  statusReport_agrees_networkReport Linq.Query.reference_documented .insertion .insertion .insertion .insertion
    .insertion twoSeatCommittee "v1" sevenByteSigMonitor rfl (by rfl)

end Watchdog
