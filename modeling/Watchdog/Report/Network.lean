import Mathlib
import Watchdog.Report.Snapshot

namespace Watchdog

open GoSlice (Panic)
open GoMap (RangeOrder appendAt)

structure NetworkReport where
  Build : String
  Chain : String
  ConsensusProgress : List (String × Bool)
  Summary : List (String × Dict)
  NoReplies : List NoReply

def leaderRecordStep (leaders : List (String × List String)) (n : GoValue) :
    Except Panic (List (String × List String)) := do
  let n ← n.asNodeMetadata
  pure (if n.Payload.IsLeader then appendAt leaders (shardKey n.Payload.ShardID) n.IP else leaders)

def networkLeaders (ord : RangeOrder) (sum : List (String × Dict)) :
    Except Panic (List (String × List String)) :=
  (ord.arrange (GoMap.index sum metaSumry [])).foldlM (fun leaders v => do
    let records ← (index (← (index (GoMap.index sum metaSumry []) v.1).asMap) "records").asSlice
    records.foldlM leaderRecordStep leaders) []

def shardLeaders (ord : RangeOrder) (leaders : List (String × List String)) (sum : List (String × Dict)) :
    Except Panic (List (String × Dict)) :=
  (ord.arrange leaders).foldlM
    (fun sum i => setHeaderField sum i.1 "shard-leader" (.strings (GoMap.index leaders i.1 []))) sum

def Monitor.networkReport (q : Linq.Query) (metaOrd leaderOrd : RangeOrder) (buildVersion : String)
    (m : Monitor) : Option (Monitor × Except Panic NetworkReport) :=
  match m.critical (summarySection q) with
  | some (m₁, .ok sum) =>
    match networkLeaders metaOrd sum >>= fun leaders => shardLeaders leaderOrd leaders sum with
    | .ok sum => (m₁.critical (progressSection sum)).map fun r =>
        (r.1, r.2.map fun p => ⟨buildVersion, r.1.chain, p.1, p.2.2, p.2.1⟩)
    | .error p => some (m₁, .error p)
  | some (m₁, .error p) => some (m₁, .error p)
  | none => none

def leaderEntry (n : NodeMetadata) : Option (String × String) :=
  if n.Payload.IsLeader then some (shardKey n.Payload.ShardID, n.IP) else none

def leaderIPs (metas : List NodeMetadata) (k : String) : List String :=
  (metas.filter fun n => n.Payload.IsLeader ∧ shardKey n.Payload.ShardID = k).map NodeMetadata.IP

def lastCrossLinkOf (crossLinks : List CrossLink) (k : String) : Option Int64 :=
  ((crossLinks.filter fun c => GoStd.itoa c.ShardID = k).getLast?).map CrossLink.BlockNumber

section Leaders

variable {q : Linq.Query}

theorem leaderRecordStep_eq (leaders : List (String × List String)) (n : NodeMetadata) :
    leaderRecordStep leaders (.nodeMetadata n) =
      .ok ((leaderEntry n).elim leaders fun p => appendAt leaders p.1 p.2) := by
  cases h : n.Payload.IsLeader <;> simp [leaderRecordStep, GoValue.asNodeMetadata, leaderEntry, h]

theorem foldlM_leaderRecordStep (group : List NodeMetadata) (leaders : List (String × List String)) :
    (group.map GoValue.nodeMetadata).foldlM leaderRecordStep leaders =
      .ok (group.foldl (fun m n => (leaderEntry n).elim m fun p => appendAt m p.1 p.2) leaders) := by
  rw [List.foldlM_map]
  exact GoStd.foldlM_eq_ok_foldl (fun m n _ => leaderRecordStep_eq m n) leaders

theorem leaderIPs_eq (metas : List NodeMetadata) (k : String) :
    ((metas.filterMap leaderEntry).filter fun p => p.1 = k).map Prod.snd = leaderIPs metas k := by
  induction metas with
  | nil => rfl
  | cons n metas ih =>
    cases hl : n.Payload.IsLeader
    · simpa [leaderEntry, leaderIPs, hl] using ih
    · by_cases hk : shardKey n.Payload.ShardID = k
      · simpa [leaderEntry, leaderIPs, hl, hk] using ih
      · simpa [leaderEntry, leaderIPs, hl, hk] using ih

theorem metaSummary_eq (hq : q.Documented) (metas : List NodeMetadata) :
    metaSummary q metas = (q.groupBy (fun node : NodeMetadata => node.Payload.Version) metas).map
      fun v => (v.1, .map [("records", .slice (v.2.map .nodeMetadata))]) := by
  rw [metaSummary, GoMap.foldl_set_of_fresh _ _ _ (hq.nodup_keys _ metas) [] fun _ _ => List.not_mem_nil,
    List.nil_append]

theorem index_metaSumry_summaryMaps (hq : q.Documented) {metas : List NodeMetadata}
    {headers : List BlockHeader} {sum : List (String × Dict)} (h : (summaryMaps q metas headers).2 = .ok sum) :
    GoMap.index sum metaSumry [] = metaSummary q metas := by
  obtain ⟨chain, rfl⟩ := eq_of_summaryMaps hq h
  simp [GoMap.index, GoMap.lookup_cons_eq_ite]

theorem networkLeaders_summaryMaps (hq : q.Documented) (ord : RangeOrder) {metas : List NodeMetadata}
    {headers : List BlockHeader} {sum : List (String × Dict)} (hsum : (summaryMaps q metas headers).2 = .ok sum) :
    ∃ leaders, networkLeaders ord sum = .ok leaders ∧ (leaders.map Prod.fst).Nodup ∧
      ∀ k, (GoMap.index leaders k []).Perm (leaderIPs metas k) ∧
        (k ∈ leaders.map Prod.fst ↔ GoMap.index leaders k [] ≠ []) := by
  set G := q.groupBy (fun node : NodeMetadata => node.Payload.Version) metas
  let φ : String × List NodeMetadata → String × GoValue :=
    fun v => (v.1, .map [("records", .slice (v.2.map .nodeMetadata))])
  have hindex : GoMap.index sum metaSumry [] = G.map φ := by
    rw [index_metaSumry_summaryMaps hq hsum, metaSummary_eq hq]
  have hnd : ((G.map φ).map Prod.fst).Nodup := by
    rw [List.map_map]
    exact hq.nodup_keys _ metas
  obtain ⟨l₀, hperm, harr⟩ := ord.exists_arrange_map φ G
  let spec := fun (m : List (String × List String)) (n : NodeMetadata) =>
    (leaderEntry n).elim m fun p => appendAt m p.1 p.2
  have hstep : ∀ leaders, ∀ v ∈ l₀,
      (do
        let records ← (index (← (index (G.map φ) (φ v).1).asMap) "records").asSlice
        records.foldlM leaderRecordStep leaders) = .ok (v.2.foldl spec leaders) := by
    intro leaders v hv
    have hlookup : (G.map φ).lookup (φ v).1 = some (φ v).2 :=
      GoMap.lookup_of_mem hnd (List.mem_map_of_mem (hperm.subset hv))
    simp only [index, hlookup, Option.getD_some, GoValue.asMap]
    exact foldlM_leaderRecordStep v.2 leaders
  have hrun : networkLeaders ord sum = .ok ((l₀.flatMap Prod.snd).foldl spec []) := by
    rw [networkLeaders, hindex, harr, List.foldlM_map, GoStd.foldlM_eq_ok_foldl hstep, List.foldl_flatMap]
  have hflat : (l₀.flatMap Prod.snd).Perm metas :=
    ((hperm.trans (hq.groupBy_perm _ metas)).flatMap_right Prod.snd).trans (Linq.flatMap_groups_perm _ metas)
  refine ⟨_, hrun, GoMap.nodup_keys_foldl_appendAt _ _ List.nodup_nil, fun k => ⟨?_, ?_⟩⟩
  · rw [GoMap.index_foldl_appendAt, GoMap.index_nil, List.nil_append, ← leaderIPs_eq]
    exact ((hflat.filterMap leaderEntry).filter _).map Prod.snd
  · exact GoMap.mem_keys_foldl_appendAt_nil _ _ k

end Leaders

def GoValue.withField (v : GoValue) (field : String) (value : GoValue) : GoValue :=
  match v with
  | .anyMap e => .anyMap (GoMap.set e field value)
  | v => v

section Writes

variable {sum sum' : List (String × Dict)}

theorem GoValue.eq_nil_of_isNil {v : GoValue} (h : v.isNil = true) : v = .nil := by
  cases v <;> first | rfl | cases h

theorem GoValue.eq_anyMap_of_asAny {v : GoValue} {e : Dict} (h : v.asAny = .ok e) : v = .anyMap e := by
  cases v with
  | anyMap m =>
    cases h
    rfl
  | _ => cases h

theorem setSummaryField_eq_ok {top key field : String} {value : GoValue}
    (h : setSummaryField sum top key field value = .ok sum') :
    (∀ k, k ≠ top → GoMap.index sum' k [] = GoMap.index sum k []) ∧
      ∀ k, index (GoMap.index sum' top []) k =
        if k = key then (index (GoMap.index sum top []) k).withField field value
        else index (GoMap.index sum top []) k := by
  unfold setSummaryField at h
  dsimp only at h
  split_ifs at h with hnil
  · cases h
    refine ⟨fun _ _ => rfl, fun k => ?_⟩
    split_ifs with hk
    · rw [hk, GoValue.eq_nil_of_isNil hnil]
      rfl
    · rfl
  · obtain ⟨e, he, hsum'⟩ := GoStd.bind_eq_ok.mp h
    cases hsum'
    refine ⟨fun k hk => GoMap.index_set_of_ne _ hk _ _, fun k => ?_⟩
    rw [GoMap.index_set_self]
    split_ifs with hk
    · rw [hk, GoValue.eq_anyMap_of_asAny he]
      simp [index, GoValue.withField]
    · simp [index, GoMap.lookup_set_of_ne _ hk]

theorem setHeaderField_eq_ok {key field : String} {value : GoValue}
    (h : setHeaderField sum key field value = .ok sum') :
    (∀ k, k ≠ headerSumry → GoMap.index sum' k [] = GoMap.index sum k []) ∧
      ∀ k, index (GoMap.index sum' headerSumry []) k =
        if k = key then (index (GoMap.index sum headerSumry []) k).withField field value
        else index (GoMap.index sum headerSumry []) k :=
  setSummaryField_eq_ok h

theorem foldlM_setSummaryField_ok {β : Type} {top field : String} (val : String × β → GoValue)
    (es : List (String × β)) (h : EntriesAny sum top) :
    ∃ sum', es.foldlM (fun sum e => setSummaryField sum top e.1 field (val e)) sum = .ok sum' ∧
      EntriesAny sum' top ∧ ∀ k, k ≠ top → GoMap.index sum' k [] = GoMap.index sum k [] := by
  let I := fun s : List (String × Dict) =>
    EntriesAny s top ∧ ∀ k, k ≠ top → GoMap.index s k [] = GoMap.index sum k []
  have hstep : ∀ s, I s → ∀ e ∈ es, ∃ s', setSummaryField s top e.1 field (val e) = .ok s' ∧ I s' := by
    rintro s ⟨hany, hframe⟩ e -
    obtain ⟨s', hs', hany'⟩ := setSummaryField_ok hany e.1 field (val e)
    exact ⟨s', hs', hany', fun k hk => ((setSummaryField_eq_ok hs').1 k hk).trans (hframe k hk)⟩
  obtain ⟨s', hs', hany', hframe'⟩ := GoStd.foldlM_eq_ok_of_forall I hstep ⟨h, fun _ _ => rfl⟩
  exact ⟨s', hs', hany', hframe'⟩

theorem foldlM_setSummaryField {β : Type} {top field : String} (val : String × β → GoValue)
    {es : List (String × β)} (hnd : (es.map Prod.fst).Nodup) (h : EntriesAny sum top) :
    ∃ sum', es.foldlM (fun sum e => setSummaryField sum top e.1 field (val e)) sum = .ok sum' ∧
      EntriesAny sum' top ∧ (∀ k, k ≠ top → GoMap.index sum' k [] = GoMap.index sum k []) ∧
      (∀ k, k ∉ es.map Prod.fst → index (GoMap.index sum' top []) k = index (GoMap.index sum top []) k) ∧
      ∀ e ∈ es, index (GoMap.index sum' top []) e.1 = (index (GoMap.index sum top []) e.1).withField field (val e) := by
  let I := fun s : List (String × Dict) =>
    EntriesAny s top ∧ ∀ k, k ≠ top → GoMap.index s k [] = GoMap.index sum k []
  let view := fun (s : List (String × Dict)) k => index (GoMap.index s top []) k
  let R := fun (e : String × β) (w w' : GoValue) => w' = w.withField field (val e)
  have hstep : ∀ e ∈ es, ∀ s, I s → ∃ s',
      setSummaryField s top e.1 field (val e) = .ok s' ∧ I s' ∧
        R e (view s e.1) (view s' e.1) ∧ ∀ k, k ≠ e.1 → view s' k = view s k := by
    rintro e - s ⟨hany, hframe⟩
    obtain ⟨s', hs', hany'⟩ := setSummaryField_ok hany e.1 field (val e)
    obtain ⟨hframe', hentry'⟩ := setSummaryField_eq_ok hs'
    refine ⟨s', hs', ⟨hany', fun k hk => (hframe' k hk).trans (hframe k hk)⟩, ?_, fun k hk => ?_⟩
    · simp only [R, view, hentry', if_true]
    · simp only [view, hentry', if_neg hk]
  obtain ⟨s', hs', ⟨hany', hframe'⟩, hother, hR⟩ :=
    GoMap.foldlM_keyed I view R _ es hnd hstep sum ⟨h, fun _ _ => rfl⟩
  exact ⟨s', hs', hany', hframe', hother, hR⟩

theorem shardLeaders_spec (ord : RangeOrder) {leaders : List (String × List String)}
    (hnd : (leaders.map Prod.fst).Nodup) (h : HeaderEntriesAny sum) :
    ∃ sum', shardLeaders ord leaders sum = .ok sum' ∧ HeaderEntriesAny sum' ∧
      (∀ k, k ≠ headerSumry → GoMap.index sum' k [] = GoMap.index sum k []) ∧
      ∀ k, index (GoMap.index sum' headerSumry []) k =
        if k ∈ leaders.map Prod.fst then
          (index (GoMap.index sum headerSumry []) k).withField "shard-leader" (.strings (GoMap.index leaders k []))
        else index (GoMap.index sum headerSumry []) k := by
  have hkeys : ∀ k, k ∈ (ord.arrange leaders).map Prod.fst ↔ k ∈ leaders.map Prod.fst :=
    fun k => ((ord.perm leaders).map Prod.fst).mem_iff
  have hnd' : ((ord.arrange leaders).map Prod.fst).Nodup := ((ord.perm leaders).map Prod.fst).nodup_iff.mpr hnd
  obtain ⟨s', hs', hany', hframe', hother, hR⟩ := foldlM_setSummaryField
    (fun e : String × List String => GoValue.strings (GoMap.index leaders e.1 [])) hnd' h
  refine ⟨s', hs', hany', hframe', fun k => ?_⟩
  split_ifs with hk
  · obtain ⟨e, he, rfl⟩ := List.mem_map.mp ((hkeys k).mpr hk)
    exact hR e he
  · exact hother k fun hk' => hk ((hkeys k).mp hk')

theorem foldlM_lastCrossLink (crossLinks : List CrossLink) (h : HeaderEntriesAny sum) :
    ∃ sum', crossLinks.foldlM lastCrossLink sum = .ok sum' ∧
      (∀ k, k ≠ headerSumry → GoMap.index sum' k [] = GoMap.index sum k []) ∧
      ∀ k, index (GoMap.index sum' headerSumry []) k =
        (crossLinks.filter fun c => GoStd.itoa c.ShardID = k).foldl
          (fun v c => v.withField "last-crosslink" (.int c.BlockNumber)) (index (GoMap.index sum headerSumry []) k) := by
  induction crossLinks generalizing sum with
  | nil => exact ⟨sum, rfl, fun _ _ => rfl, fun _ => rfl⟩
  | cons c cs ih =>
    obtain ⟨sum₁, hsum₁, hany₁⟩ := lastCrossLink_ok h c
    rw [lastCrossLink_eq] at hsum₁
    obtain ⟨hframe₁, hentry₁⟩ := setHeaderField_eq_ok hsum₁
    obtain ⟨sum', hsum', hframe', hentry'⟩ := ih hany₁
    refine ⟨sum', ?_, fun k hk => (hframe' k hk).trans (hframe₁ k hk), fun k => ?_⟩
    · rw [List.foldlM_cons, lastCrossLink_eq, hsum₁]
      exact hsum'
    · rw [hentry', hentry₁, List.filter_cons]
      by_cases hk : GoStd.itoa c.ShardID = k
      · rw [if_pos hk.symm, if_pos (by simpa using hk), List.foldl_cons]
      · rw [if_neg (Ne.symm hk), if_neg (by simpa using hk)]

end Writes

structure NetworkSummary (metas : List NodeMetadata) (crossLinks : List CrossLink)
    (sum₀ sum : List (String × Dict)) : Prop where
  frame : ∀ k, k ≠ headerSumry → GoMap.index sum k [] = GoMap.index sum₀ k []
  absent : ∀ k, index (GoMap.index sum₀ headerSumry []) k = .nil → index (GoMap.index sum headerSumry []) k = .nil
  entry : ∀ k e, index (GoMap.index sum₀ headerSumry []) k = .anyMap e →
    ∃ e', index (GoMap.index sum headerSumry []) k = .anyMap e' ∧
      (∀ f, f ≠ "shard-leader" → f ≠ "last-crosslink" → e'.lookup f = e.lookup f) ∧
      (∃ ips, ips.Perm (leaderIPs metas k) ∧
        e'.lookup "shard-leader" = if ips = [] then none else some (.strings ips)) ∧
      e'.lookup "last-crosslink" = (lastCrossLinkOf crossLinks k).map .int

section Entries

variable {β : Type} (f : String) (g : β → GoValue)

theorem foldl_withField_nil (xs : List β) :
    xs.foldl (fun (v : GoValue) c => v.withField f (g c)) .nil = .nil :=
  List.foldl_fixed' (fun _ => rfl) xs

theorem foldl_withField_anyMap (xs : List β) (e : Dict) :
    xs.foldl (fun (v : GoValue) c => v.withField f (g c)) (.anyMap e) =
      .anyMap (xs.foldl (fun e c => GoMap.set e f (g c)) e) := by
  induction xs generalizing e with
  | nil => rfl
  | cons c xs ih => exact ih _

theorem annotate_anyMap {e : Dict} (hsl : e.lookup "shard-leader" = none)
    (hlc : e.lookup "last-crosslink" = none) (p : Prop) [Decidable p] (ips : List String)
    (cls : List CrossLink) :
    ∃ e', cls.foldl (fun v c => v.withField "last-crosslink" (.int c.BlockNumber))
        (if p then (GoValue.anyMap e).withField "shard-leader" (.strings ips) else .anyMap e) = .anyMap e' ∧
      (∀ f, f ≠ "shard-leader" → f ≠ "last-crosslink" → e'.lookup f = e.lookup f) ∧
      e'.lookup "shard-leader" = (if p then some (.strings ips) else none) ∧
      e'.lookup "last-crosslink" = cls.getLast?.map fun c => .int c.BlockNumber := by
  set e₁ := if p then GoMap.set e "shard-leader" (.strings ips) else e with he₁
  have hstart : (if p then (GoValue.anyMap e).withField "shard-leader" (.strings ips) else .anyMap e) =
      .anyMap e₁ := by
    rw [he₁]
    split_ifs <;> rfl
  have hkeep : ∀ f, f ≠ "last-crosslink" →
      (cls.foldl (fun e c => GoMap.set e "last-crosslink" (.int c.BlockNumber)) e₁).lookup f = e₁.lookup f :=
    fun f hf => GoMap.lookup_foldl_set_of_not_mem (fun _ => "last-crosslink")
      (fun c : CrossLink => GoValue.int c.BlockNumber) cls e₁ fun _ _ => Ne.symm hf
  have hlc₁ : e₁.lookup "last-crosslink" = none := by
    rw [he₁]
    split_ifs
    · rw [GoMap.lookup_set_of_ne _ (by decide), hlc]
    · exact hlc
  refine ⟨_, by rw [hstart, foldl_withField_anyMap], fun f hf hf' => ?_, ?_, ?_⟩
  · rw [hkeep f hf', he₁]
    split_ifs
    · exact GoMap.lookup_set_of_ne _ hf _
    · rfl
  · rw [hkeep _ (by decide), he₁]
    split_ifs
    · exact GoMap.lookup_set_self _ _ _
    · exact hsl
  · rw [GoMap.lookup_foldl_set_self (fun c : CrossLink => GoValue.int c.BlockNumber), hlc₁, Option.or_none]

end Entries

section Report

variable {q : Linq.Query}

theorem fresh_summaryMaps (hq : q.Documented) {metas : List NodeMetadata} {headers : List BlockHeader}
    {sum : List (String × Dict)} (hsum : (summaryMaps q metas headers).2 = .ok sum) {k : String} {e : Dict}
    (he : index (GoMap.index sum headerSumry []) k = .anyMap e) :
    e.lookup "shard-leader" = none ∧ e.lookup "last-crosslink" = none := by
  rw [index_headerSumry_summaryMaps hq hsum] at he
  cases hl : (blockHeaderSummary q (headers.map shortenHeader) true []).lookup k with
  | none => simp [index, hl] at he
  | some v =>
    obtain ⟨s, -, hkv⟩ := (mem_blockHeaderSummary_nil hq _).mp (GoMap.mem_of_lookup hl)
    cases hkv
    simp only [index, hl, Option.getD_some, GoValue.anyMap.injEq] at he
    subst he
    exact ⟨rfl, rfl⟩

theorem shardSummary_summaryMaps (hq : q.Documented) {metas : List NodeMetadata} {headers : List BlockHeader}
    {sum : List (String × Dict)} (h : (summaryMaps q metas headers).2 = .ok sum) {n : BlockHeader}
    (hn : n ∈ headers.map shortenHeader) :
    ∃ e, index (GoMap.index sum headerSumry []) (shardKey n.Payload.ShardID) = .anyMap e ∧
      ShardSummary ((headers.map shortenHeader).filter fun c => c.Payload.ShardID = n.Payload.ShardID) e := by
  have hmem : (shardKey n.Payload.ShardID, GoValue.anyMap (shardEntry q true
      ((headers.map shortenHeader).filter fun c => c.Payload.ShardID = n.Payload.ShardID))) ∈
      blockHeaderSummary q (headers.map shortenHeader) true [] :=
    (mem_blockHeaderSummary_nil hq _).mpr ⟨_, List.mem_map_of_mem hn, rfl⟩
  refine ⟨_, ?_, shardEntry_spec hq (List.ne_nil_of_mem (List.mem_filter.mpr ⟨hn, by simp⟩))⟩
  rw [index_headerSumry_summaryMaps hq h, index,
    GoMap.lookup_of_mem (nodup_keys_blockHeaderSummary_nil hq _ true) hmem]
  rfl

theorem shardKey_of_summaryMaps (hq : q.Documented) {metas : List NodeMetadata} {headers : List BlockHeader}
    {sum : List (String × Dict)} (h : (summaryMaps q metas headers).2 = .ok sum) {k : String}
    (hk : index (GoMap.index sum headerSumry []) k ≠ .nil) :
    ∃ s ∈ (headers.map shortenHeader).map (fun v => v.Payload.ShardID), k = shardKey s := by
  rw [index_headerSumry_summaryMaps hq h] at hk
  cases hl : (blockHeaderSummary q (headers.map shortenHeader) true []).lookup k with
  | none => exact absurd (by rw [index, hl]; rfl) hk
  | some v =>
    obtain ⟨s, hs, hkv⟩ := (mem_blockHeaderSummary_nil hq _).mp (GoMap.mem_of_lookup hl)
    exact ⟨s, hs, (Prod.mk.inj hkv).1⟩

theorem networkReport_ok (hq : q.Documented) (metaOrd leaderOrd : RangeOrder) (buildVersion : String)
    {m : Monitor} (hm : m.inUse = false)
    (hok : (summaryMaps q m.MetadataSnapshot.Nodes m.BlockHeaderSnapshot.Nodes).2.toBool = true) :
    ∃ sum₀ sum, (summaryMaps q m.MetadataSnapshot.Nodes m.BlockHeaderSnapshot.Nodes).2 = .ok sum₀ ∧
      m.networkReport q metaOrd leaderOrd buildVersion = some (m.shortenSigs,
        .ok ⟨buildVersion, m.chain, m.consensusProgress, sum,
          m.MetadataSnapshot.Down ++ m.BlockHeaderSnapshot.Down⟩) ∧
      NetworkSummary m.MetadataSnapshot.Nodes m.LastCrossLinks.CrossLinks sum₀ sum := by
  have h : m.SigsFit := (summaryMaps_ok_iff hq).mp hok
  obtain ⟨chain, hchain⟩ := chainSummary_ok hq m.MetadataSnapshot.Nodes
  have hsum := congrArg Prod.snd (summaryMaps_of_chain hchain h)
  have hsummary := critical_summarySection hm hchain h
  obtain ⟨leaders, hleaders, hnd, hips⟩ := networkLeaders_summaryMaps hq metaOrd hsum
  have hany₀ := headerEntriesAny_summaryMaps hq hsum
  obtain ⟨sum₁, hsum₁, hany₁, hframe₁, hentry₁⟩ := shardLeaders_spec leaderOrd hnd hany₀
  obtain ⟨sum₂, hsum₂, hframe₂, hentry₂⟩ := foldlM_lastCrossLink m.LastCrossLinks.CrossLinks hany₁
  have hprogress : m.shortenSigs.critical (progressSection sum₁) = some (m.shortenSigs,
      .ok (m.consensusProgress, m.MetadataSnapshot.Down ++ m.BlockHeaderSnapshot.Down, sum₂)) := by
    refine critical_of_body hm (Prod.ext rfl ?_) hm
    show Except.map _ (m.LastCrossLinks.CrossLinks.foldlM lastCrossLink sum₁) = _
    rw [hsum₂]
    rfl
  refine ⟨_, sum₂, hsum, ?_,
    ⟨fun k hk => (hframe₂ k hk).trans (hframe₁ k hk), fun k hk => ?_, fun k e he => ?_⟩⟩
  · simp only [Monitor.networkReport, hsummary, hleaders, GoStd.ok_bind, hsum₁, hprogress]
    rfl
  · rw [hentry₂, hentry₁, hk]
    split_ifs <;> exact foldl_withField_nil _ _ _
  · obtain ⟨hsl, hlc⟩ := fresh_summaryMaps hq hsum he
    obtain ⟨e', he', hother, hleader, hlast⟩ := annotate_anyMap hsl hlc (k ∈ leaders.map Prod.fst)
      (GoMap.index leaders k []) (m.LastCrossLinks.CrossLinks.filter fun c => GoStd.itoa c.ShardID = k)
    refine ⟨e', ?_, hother, ⟨GoMap.index leaders k [], (hips k).1, ?_⟩, ?_⟩
    · rw [hentry₂, hentry₁, he]
      exact he'
    · simp only [hleader, (hips k).2, ite_not]
    · rw [hlast, lastCrossLinkOf, Option.map_map]
      rfl

theorem networkReport_spec (hq : q.Documented) (metaOrd leaderOrd : RangeOrder) (buildVersion : String)
    (m : Monitor) (hm : m.inUse = false)
    (hok : (summaryMaps q m.MetadataSnapshot.Nodes m.BlockHeaderSnapshot.Nodes).2.toBool = true) :
    ∃ sum₀ sum, m.networkSummaryMaps q = some (m.shortenSigs, .ok sum₀) ∧
      m.networkReport q metaOrd leaderOrd buildVersion = some (m.shortenSigs,
        .ok ⟨buildVersion, m.chain, m.consensusProgress, sum,
          m.MetadataSnapshot.Down ++ m.BlockHeaderSnapshot.Down⟩) ∧
      HeaderEntriesAny sum₀ ∧ NetworkSummary m.MetadataSnapshot.Nodes m.LastCrossLinks.CrossLinks sum₀ sum := by
  obtain ⟨sum₀, sum, hsum, hreport, hnet⟩ := networkReport_ok hq metaOrd leaderOrd buildVersion hm hok
  have h : m.SigsFit := (summaryMaps_ok_iff hq).mp hok
  obtain ⟨chain, hchain⟩ := chainSummary_ok hq m.MetadataSnapshot.Nodes
  have hsnap : m.networkSummaryMaps q = some (m.shortenSigs, .ok sum₀) := by
    rw [Except.ok.inj (hsum.symm.trans (congrArg Prod.snd (summaryMaps_of_chain hchain h)))]
    exact call_of_chain hq hm hchain h .network
  exact ⟨sum₀, sum, hsnap, hreport, headerEntriesAny_summaryMaps hq hsum, hnet⟩

end Report

def sevenByteSigMonitor : Monitor :=
  { Monitor.init "mainnet" with BlockHeaderSnapshot := ⟨GoNumeric.zeroTime, [sevenByteSigHeader], []⟩ }

theorem networkReport_spec_sevenByteSig :
    ∃ sum₀ sum, sevenByteSigMonitor.networkSummaryMaps .reference =
        some (sevenByteSigMonitor.shortenSigs, .ok sum₀) ∧
      sevenByteSigMonitor.networkReport .reference .insertion .insertion "v1" =
        some (sevenByteSigMonitor.shortenSigs, .ok ⟨"v1", sevenByteSigMonitor.chain,
          sevenByteSigMonitor.consensusProgress, sum,
          sevenByteSigMonitor.MetadataSnapshot.Down ++ sevenByteSigMonitor.BlockHeaderSnapshot.Down⟩) ∧
      HeaderEntriesAny sum₀ ∧
      NetworkSummary sevenByteSigMonitor.MetadataSnapshot.Nodes sevenByteSigMonitor.LastCrossLinks.CrossLinks
        sum₀ sum :=
  networkReport_spec Linq.Query.reference_documented .insertion .insertion "v1" sevenByteSigMonitor rfl (by rfl)

end Watchdog
