import Mathlib
import Watchdog.Model.Rpc
import Watchdog.Foundations.GoMap

namespace Watchdog

open GoMap (RangeOrder appendAt)

structure CxAlert where
  incidentKey : String
  shard : Int64
  size : UInt64
  deriving DecidableEq, Repr

def cxIncidentKey (shard : Int64) (chain : String) : String :=
  "Shard " ++ toString shard.toInt ++ " cx pool size greater than pending limit! - " ++ chain

def workerReply (request : String → String → Bytes × Bytes × Option String) (rpc address : String) :
    Reply :=
  let result := request address rpc
  ⟨address, rpc, result.2.1, result.1, result.2.2⟩

def cxLeaderStep (decodeMetadata : Bytes → NodeMetadataReply) (leaders : List (Int64 × List String))
    (d : Reply) : List (Int64 × List String) :=
  match d.oops with
  | none =>
    let oneReport := decodeMetadata d.rpcResult
    if oneReport.IsLeader then
      let shard := oneReport.ShardID.toUInt64.toInt64
      GoMap.set leaders shard (GoMap.index leaders shard [] ++ [d.address])
    else leaders
  | some _ => leaders

def cxSearch (address : String) (s : Int64) : List String → Int64 → Int64
  | [], shard => shard
  | n :: v, shard => if n = address then s else cxSearch address s v shard

def cxShard (ord : RangeOrder) (leaders : List (Int64 × List String)) (address : String) : Int64 :=
  (ord.arrange leaders).foldl (fun shard (s, v) => cxSearch address s v shard) 0

def cxRecordStep (decodeCX : Bytes → UInt64) (limit : UInt64) (chain : String)
    (searchOrd : Nat → RangeOrder) (leaders : List (Int64 × List String))
    (acc : List (Int64 × List UInt64) × List CxAlert) (i : Reply × Nat) :
    List (Int64 × List UInt64) × List CxAlert :=
  let (cxPoolSize, alerts) := acc
  match i.1.oops with
  | none =>
    let report := decodeCX i.1.rpcResult
    let shard := cxShard (searchOrd i.2) leaders i.1.address
    let cxPoolSize := GoMap.set cxPoolSize shard (GoMap.index cxPoolSize shard [] ++ [report])
    if report > limit then (cxPoolSize, alerts ++ [⟨cxIncidentKey shard chain, shard, report⟩])
    else (cxPoolSize, alerts)
  | some _ => (cxPoolSize, alerts)

structure CxRound where
  metadataReplies : List Reply
  leaders : List (Int64 × List String)
  cxReplies : List Reply
  cxPoolSize : List (Int64 × List UInt64)
  alerts : List CxAlert

def cxMonitorRound (jobOrd mdArrival leaderOrd cxArrival : RangeOrder) (searchOrd : Nat → RangeOrder)
    (request : String → String → Bytes × Bytes × Option String)
    (decodeMetadata : Bytes → NodeMetadataReply) (decodeCX : Bytes → UInt64) (limit : UInt64)
    (chain : String) (shardMap : List (String × Int64)) : CxRound :=
  let metadataReplies := mdArrival.arrange
    ((jobOrd.arrange shardMap).map fun (n, _) => workerReply request NodeMetadataRPC n)
  let leaders := metadataReplies.foldl (cxLeaderStep decodeMetadata) []
  let cxReplies := cxArrival.arrange
    ((leaderOrd.arrange leaders).flatMap fun (_, node) => node.map (workerReply request PendingCXRPC))
  let out := cxReplies.zipIdx.foldl (cxRecordStep decodeCX limit chain searchOrd leaders) ([], [])
  ⟨metadataReplies, leaders, cxReplies, out.1, out.2⟩

def leaderOf (decodeMetadata : Bytes → NodeMetadataReply) (d : Reply) : Option (Int64 × String) :=
  match d.oops with
  | none =>
    if (decodeMetadata d.rpcResult).IsLeader then
      some ((decodeMetadata d.rpcResult).ShardID.toUInt64.toInt64, d.address)
    else none
  | some _ => none

def reportedShard (request : String → String → Bytes × Bytes × Option String)
    (decodeMetadata : Bytes → NodeMetadataReply) (address : String) : Int64 :=
  (decodeMetadata (request address NodeMetadataRPC).1).ShardID.toUInt64.toInt64

def reportsLeader (request : String → String → Bytes × Bytes × Option String)
    (decodeMetadata : Bytes → NodeMetadataReply) (address : String) : Bool :=
  (request address NodeMetadataRPC).2.2.isNone && (decodeMetadata (request address NodeMetadataRPC).1).IsLeader

section Leaders

variable {decodeMetadata : Bytes → NodeMetadataReply}

theorem cxLeaderStep_eq (leaders : List (Int64 × List String)) (d : Reply) :
    cxLeaderStep decodeMetadata leaders d =
      (leaderOf decodeMetadata d).elim leaders fun p => appendAt leaders p.1 p.2 := by
  unfold cxLeaderStep leaderOf
  cases d.oops with
  | none =>
    by_cases hl : (decodeMetadata d.rpcResult).IsLeader <;> simp [hl, appendAt]
  | some _ => rfl

theorem foldl_cxLeaderStep (replies : List Reply) (leaders : List (Int64 × List String)) :
    replies.foldl (cxLeaderStep decodeMetadata) leaders =
      replies.foldl (fun m d => (leaderOf decodeMetadata d).elim m fun p => appendAt m p.1 p.2) leaders :=
  List.foldl_ext _ _ _ fun m d _ => cxLeaderStep_eq m d

theorem mem_index_cxLeaders {replies : List Reply} {s : Int64} {a : String} :
    a ∈ GoMap.index (replies.foldl (cxLeaderStep decodeMetadata) []) s [] ↔
      ∃ d ∈ replies, leaderOf decodeMetadata d = some (s, a) := by
  rw [foldl_cxLeaderStep, GoMap.index_foldl_appendAt]
  simp only [GoMap.index_nil, List.nil_append, List.mem_map, List.mem_filter, List.mem_filterMap,
    decide_eq_true_eq]
  constructor
  · rintro ⟨⟨s', a'⟩, ⟨⟨d, hd, hleader⟩, rfl⟩, rfl⟩
    exact ⟨d, hd, hleader⟩
  · rintro ⟨d, hd, hleader⟩
    exact ⟨(s, a), ⟨⟨d, hd, hleader⟩, rfl⟩, rfl⟩

theorem nodup_keys_cxLeaders (replies : List Reply) :
    ((replies.foldl (cxLeaderStep decodeMetadata) []).map Prod.fst).Nodup := by
  rw [foldl_cxLeaderStep]
  exact GoMap.nodup_keys_foldl_appendAt _ replies List.nodup_nil

theorem mem_index_of_mem_cxLeaders {replies : List Reply} {e : Int64 × List String} {a : String}
    (he : e ∈ replies.foldl (cxLeaderStep decodeMetadata) []) (ha : a ∈ e.2) :
    ∃ d ∈ replies, leaderOf decodeMetadata d = some (e.1, a) := by
  have hlookup := GoMap.lookup_of_mem (nodup_keys_cxLeaders replies) (k := e.1) (v := e.2) he
  refine mem_index_cxLeaders.mp ?_
  rw [GoMap.index, hlookup]
  exact ha

end Leaders

section Search

theorem cxSearch_eq (address : String) (s : Int64) (v : List String) (shard : Int64) :
    cxSearch address s v shard = if address ∈ v then s else shard := by
  induction v with
  | nil => simp [cxSearch]
  | cons n v ih =>
    unfold cxSearch
    split_ifs with hn hmem hmem
    · rfl
    · exact absurd (List.mem_cons.mpr (.inl hn.symm)) hmem
    · rw [ih, if_pos (List.mem_of_ne_of_mem (Ne.symm hn) hmem)]
    · rw [ih, if_neg fun h => hmem (List.mem_cons_of_mem n h)]

theorem foldl_cxSearch {address : String} {s : Int64} (l : List (Int64 × List String))
    (hkey : ∀ e ∈ l, address ∈ e.2 → e.1 = s) (shard : Int64) :
    l.foldl (fun shard e => cxSearch address e.1 e.2 shard) shard =
      if ∃ e ∈ l, address ∈ e.2 then s else shard := by
  induction l generalizing shard with
  | nil => simp
  | cons e l ih =>
    rw [List.foldl_cons, ih fun e' he' => hkey e' (List.mem_cons_of_mem e he'), cxSearch_eq]
    by_cases he : address ∈ e.2
    · rw [if_pos he, hkey e List.mem_cons_self he, ite_self, if_pos ⟨e, List.mem_cons_self, he⟩]
    · rw [if_neg he]
      simp only [List.mem_cons, exists_eq_or_imp, he, false_or]

theorem cxShard_eq {ord : RangeOrder} {leaders : List (Int64 × List String)} {address : String}
    {s : Int64} (hkey : ∀ e ∈ leaders, address ∈ e.2 → e.1 = s) (hex : ∃ e ∈ leaders, address ∈ e.2) :
    cxShard ord leaders address = s := by
  have hkey' : ∀ e ∈ ord.arrange leaders, address ∈ e.2 → e.1 = s :=
    fun e he => hkey e ((ord.mem_arrange).mp he)
  obtain ⟨e, he, ha⟩ := hex
  unfold cxShard
  rw [foldl_cxSearch _ hkey', if_pos ⟨e, (ord.mem_arrange).mpr he, ha⟩]

end Search

def cxEntry (shardOf : String → Int64) (decodeCX : Bytes → UInt64) (i : Reply) :
    Option (Int64 × UInt64) :=
  match i.oops with
  | none => some (shardOf i.address, decodeCX i.rpcResult)
  | some _ => none

def cxAlertOf (limit : UInt64) (chain : String) (p : Int64 × UInt64) : Option CxAlert :=
  if p.2 > limit then some ⟨cxIncidentKey p.1 chain, p.1, p.2⟩ else none

section Record

variable {decodeCX : Bytes → UInt64} {limit : UInt64} {chain : String} {searchOrd : Nat → RangeOrder}
  {leaders : List (Int64 × List String)} {shardOf : String → Int64}

theorem cxRecordStep_eq (pool : List (Int64 × List UInt64)) (alerts : List CxAlert) {i : Reply × Nat}
    (hshard : cxShard (searchOrd i.2) leaders i.1.address = shardOf i.1.address) :
    cxRecordStep decodeCX limit chain searchOrd leaders (pool, alerts) i =
      ((cxEntry shardOf decodeCX i.1).elim pool fun p => appendAt pool p.1 p.2,
        alerts ++ ((cxEntry shardOf decodeCX i.1).bind (cxAlertOf limit chain)).toList) := by
  unfold cxRecordStep cxEntry
  cases i.1.oops with
  | none =>
    by_cases hlimit : decodeCX i.1.rpcResult > limit <;>
      simp [hshard, hlimit, cxAlertOf, appendAt]
  | some _ => simp

theorem foldl_cxRecordStep (xs : List Reply)
    (hshard : ∀ i ∈ xs, ∀ j, cxShard (searchOrd j) leaders i.address = shardOf i.address) :
    ∀ n pool alerts, (xs.zipIdx n).foldl (cxRecordStep decodeCX limit chain searchOrd leaders) (pool, alerts) =
      (xs.foldl (fun m i => (cxEntry shardOf decodeCX i).elim m fun p => appendAt m p.1 p.2) pool,
        alerts ++ (xs.filterMap (cxEntry shardOf decodeCX)).filterMap (cxAlertOf limit chain)) := by
  induction xs with
  | nil => simp
  | cons x xs ih =>
    intro n pool alerts
    rw [List.zipIdx_cons, List.foldl_cons, cxRecordStep_eq pool alerts (hshard x List.mem_cons_self n),
      ih (fun i hi => hshard i (List.mem_cons_of_mem x hi)), List.foldl_cons]
    cases hx : cxEntry shardOf decodeCX x with
    | none => simp [hx]
    | some p => cases ha : cxAlertOf limit chain p <;> simp [hx, ha]

theorem cxEntries_pool (xs : List Reply) (s : Int64) :
    ((xs.filterMap (cxEntry shardOf decodeCX)).filter fun p => p.1 = s).map Prod.snd =
      (xs.filter fun i => i.oops = none ∧ shardOf i.address = s).map fun i => decodeCX i.rpcResult := by
  induction xs with
  | nil => rfl
  | cons x xs ih =>
    cases hx : x.oops with
    | none => by_cases hs : shardOf x.address = s <;> simp [cxEntry, hx, hs, ih]
    | some _ => simp [cxEntry, hx, ih]

theorem cxEntries_alerts (xs : List Reply) :
    (xs.filterMap (cxEntry shardOf decodeCX)).filterMap (cxAlertOf limit chain) =
      (xs.filter fun i => i.oops = none ∧ decodeCX i.rpcResult > limit).map fun i =>
        ⟨cxIncidentKey (shardOf i.address) chain, shardOf i.address, decodeCX i.rpcResult⟩ := by
  induction xs with
  | nil => rfl
  | cons x xs ih =>
    cases hx : x.oops with
    | none => by_cases hl : decodeCX x.rpcResult > limit <;> simp [cxEntry, cxAlertOf, hx, hl, ih]
    | some _ => simp [cxEntry, hx, ih]

end Record

structure CxAttributed (request : String → String → Bytes × Bytes × Option String)
    (decodeMetadata : Bytes → NodeMetadataReply) (decodeCX : Bytes → UInt64) (limit : UInt64)
    (chain : String) (shardMap : List (String × Int64)) (R : CxRound) : Prop where
  leaders_exact : ∀ s a, a ∈ GoMap.index R.leaders s [] ↔
    a ∈ shardMap.map Prod.fst ∧ reportsLeader request decodeMetadata a = true ∧
      reportedShard request decodeMetadata a = s
  cxReplies_exact : R.cxReplies.Perm
    (((shardMap.map Prod.fst).filter (reportsLeader request decodeMetadata)).map (workerReply request PendingCXRPC))
  leaders_only : ∀ i ∈ R.cxReplies, i.address ∈ shardMap.map Prod.fst ∧
    (request i.address NodeMetadataRPC).2.2 = none ∧
    (decodeMetadata (request i.address NodeMetadataRPC).1).IsLeader = true
  pool : ∀ s, GoMap.index R.cxPoolSize s [] =
    (R.cxReplies.filter fun i => i.oops = none ∧ reportedShard request decodeMetadata i.address = s).map
      fun i => decodeCX i.rpcResult
  alerts : R.alerts =
    (R.cxReplies.filter fun i => i.oops = none ∧ decodeCX i.rpcResult > limit).map fun i =>
      ⟨cxIncidentKey (reportedShard request decodeMetadata i.address) chain,
        reportedShard request decodeMetadata i.address, decodeCX i.rpcResult⟩

section Round

variable {jobOrd mdArrival leaderOrd cxArrival : RangeOrder} {searchOrd : Nat → RangeOrder}
  {request : String → String → Bytes × Bytes × Option String}
  {decodeMetadata : Bytes → NodeMetadataReply} {decodeCX : Bytes → UInt64} {limit : UInt64}
  {chain : String} {shardMap : List (String × Int64)}

theorem leaderOf_workerReply_eq (a : String) :
    leaderOf decodeMetadata (workerReply request NodeMetadataRPC a) =
      if reportsLeader request decodeMetadata a then some (reportedShard request decodeMetadata a, a) else none := by
  unfold leaderOf workerReply reportsLeader reportedShard
  cases hoops : (request a NodeMetadataRPC).2.2 with
  | some _ => simp [hoops]
  | none => by_cases hl : (decodeMetadata (request a NodeMetadataRPC).1).IsLeader <;> simp [hoops, hl]

theorem leaderOf_workerReply {a a' : String} {s : Int64}
    (h : leaderOf decodeMetadata (workerReply request NodeMetadataRPC a) = some (s, a')) :
    a' = a ∧ s = reportedShard request decodeMetadata a ∧ (request a NodeMetadataRPC).2.2 = none ∧
      (decodeMetadata (request a NodeMetadataRPC).1).IsLeader = true := by
  rw [leaderOf_workerReply_eq] at h
  split_ifs at h with hl
  cases h
  simp only [reportsLeader, Bool.and_eq_true, Option.isNone_iff_eq_none] at hl
  exact ⟨rfl, rfl, hl.1, hl.2⟩

theorem mem_index_leaders_iff {s : Int64} {a : String} :
    a ∈ GoMap.index (cxMonitorRound jobOrd mdArrival leaderOrd cxArrival searchOrd request decodeMetadata
      decodeCX limit chain shardMap).leaders s [] ↔
      a ∈ shardMap.map Prod.fst ∧ reportsLeader request decodeMetadata a = true ∧
        reportedShard request decodeMetadata a = s := by
  simp only [cxMonitorRound]
  rw [mem_index_cxLeaders]
  simp only [GoMap.RangeOrder.mem_arrange, List.mem_map]
  constructor
  · rintro ⟨d, ⟨p, hp, rfl⟩, hleader⟩
    rw [leaderOf_workerReply_eq] at hleader
    split_ifs at hleader with hl
    cases hleader
    exact ⟨⟨p, hp, rfl⟩, hl, rfl⟩
  · rintro ⟨⟨p, hp, rfl⟩, hl, rfl⟩
    exact ⟨_, ⟨p, hp, rfl⟩, by rw [leaderOf_workerReply_eq, if_pos hl]⟩

theorem filterMap_leaderOf_workerReply (addresses : List String) :
    ((addresses.map (workerReply request NodeMetadataRPC)).filterMap (leaderOf decodeMetadata)).map Prod.snd =
      addresses.filter (reportsLeader request decodeMetadata) := by
  induction addresses with
  | nil => rfl
  | cons a addresses ih =>
    rw [List.map_cons, List.filterMap_cons, leaderOf_workerReply_eq]
    by_cases hl : reportsLeader request decodeMetadata a = true
    · simp only [hl, if_true, List.map_cons, ih, List.filter_cons_of_pos hl]
    · simp only [hl, Bool.false_eq_true, if_false, ih, List.filter_cons_of_neg hl]

theorem cxReplies_perm :
    (cxMonitorRound jobOrd mdArrival leaderOrd cxArrival searchOrd request decodeMetadata decodeCX limit chain
      shardMap).cxReplies.Perm
      (((shardMap.map Prod.fst).filter (reportsLeader request decodeMetadata)).map
        (workerReply request PendingCXRPC)) := by
  simp only [cxMonitorRound]
  set metadataReplies := mdArrival.arrange ((jobOrd.arrange shardMap).map fun (n, _) =>
    workerReply request NodeMetadataRPC n)
  have hmd : metadataReplies.Perm ((shardMap.map Prod.fst).map (workerReply request NodeMetadataRPC)) := by
    refine (mdArrival.perm _).trans ?_
    rw [List.map_map]
    exact (jobOrd.perm shardMap).map _
  have hleaders : ((metadataReplies.foldl (cxLeaderStep decodeMetadata) []).flatMap Prod.snd).Perm
      ((shardMap.map Prod.fst).filter (reportsLeader request decodeMetadata)) := by
    rw [foldl_cxLeaderStep]
    refine (GoMap.flatMap_snd_foldl_appendAt_perm _ _ []).trans ?_
    rw [List.flatMap_nil, List.nil_append, ← filterMap_leaderOf_workerReply]
    exact (hmd.filterMap _).map _
  refine (cxArrival.perm _).trans ?_
  refine ((leaderOrd.perm _).flatMap_right _).trans ?_
  rw [← List.map_flatMap]
  exact hleaders.map _

theorem shard_of_mem_leaders {e : Int64 × List String} {a : String}
    (he : e ∈ (cxMonitorRound jobOrd mdArrival leaderOrd cxArrival searchOrd request decodeMetadata
      decodeCX limit chain shardMap).leaders) (ha : a ∈ e.2) :
    a ∈ shardMap.map Prod.fst ∧ e.1 = reportedShard request decodeMetadata a ∧
      (request a NodeMetadataRPC).2.2 = none ∧ (decodeMetadata (request a NodeMetadataRPC).1).IsLeader = true := by
  obtain ⟨d, hd, hleader⟩ := mem_index_of_mem_cxLeaders he ha
  simp only [GoMap.RangeOrder.mem_arrange, List.mem_map] at hd
  obtain ⟨p, hp, rfl⟩ := hd
  obtain ⟨rfl, hs, hok, hl⟩ := leaderOf_workerReply hleader
  exact ⟨List.mem_map_of_mem hp, hs, hok, hl⟩

theorem mem_cxReplies {i : Reply}
    (hi : i ∈ (cxMonitorRound jobOrd mdArrival leaderOrd cxArrival searchOrd request decodeMetadata
      decodeCX limit chain shardMap).cxReplies) :
    ∃ e ∈ (cxMonitorRound jobOrd mdArrival leaderOrd cxArrival searchOrd request decodeMetadata
      decodeCX limit chain shardMap).leaders, i.address ∈ e.2 := by
  simp only [cxMonitorRound, GoMap.RangeOrder.mem_arrange, List.mem_flatMap, List.mem_map] at hi ⊢
  obtain ⟨e, he, a, ha, rfl⟩ := hi
  exact ⟨e, he, ha⟩

end Round

theorem cxMonitorRound_attributed (jobOrd mdArrival leaderOrd cxArrival : RangeOrder)
    (searchOrd : Nat → RangeOrder) (request : String → String → Bytes × Bytes × Option String)
    (decodeMetadata : Bytes → NodeMetadataReply) (decodeCX : Bytes → UInt64) (limit : UInt64)
    (chain : String) (shardMap : List (String × Int64)) :
    CxAttributed request decodeMetadata decodeCX limit chain shardMap
      (cxMonitorRound jobOrd mdArrival leaderOrd cxArrival searchOrd request decodeMetadata decodeCX
        limit chain shardMap) := by
  obtain ⟨R, hR⟩ : ∃ R, R = cxMonitorRound jobOrd mdArrival leaderOrd cxArrival searchOrd request
      decodeMetadata decodeCX limit chain shardMap := ⟨_, rfl⟩
  rw [← hR]
  have hleaders : ∀ i ∈ R.cxReplies, ∃ e ∈ R.leaders, i.address ∈ e.2 := by
    rw [hR]
    exact fun i hi => mem_cxReplies hi
  have hshard : ∀ i ∈ R.cxReplies, ∀ j,
      cxShard (searchOrd j) R.leaders i.address = reportedShard request decodeMetadata i.address := by
    intro i hi j
    refine cxShard_eq (fun e he ha => ?_) (hleaders i hi)
    rw [hR] at he
    exact (shard_of_mem_leaders he ha).2.1
  have hout : R.cxReplies.zipIdx.foldl (cxRecordStep decodeCX limit chain searchOrd R.leaders) ([], []) =
      (R.cxPoolSize, R.alerts) := by
    rw [hR]
    rfl
  rw [foldl_cxRecordStep R.cxReplies hshard 0 [] [], Prod.mk.injEq] at hout
  obtain ⟨hpool, halerts⟩ := hout
  constructor
  · intro s a
    rw [hR]
    exact mem_index_leaders_iff
  · rw [hR]
    exact cxReplies_perm
  · intro i hi
    obtain ⟨e, he, ha⟩ := hleaders i hi
    rw [hR] at he
    obtain ⟨hmem, -, hok, hl⟩ := shard_of_mem_leaders he ha
    exact ⟨hmem, hok, hl⟩
  · intro s
    rw [← hpool, GoMap.index_foldl_appendAt, GoMap.index_nil, List.nil_append, cxEntries_pool]
  · rw [← halerts, List.nil_append, cxEntries_alerts]

end Watchdog
