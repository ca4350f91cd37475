import Mathlib
import Watchdog.Model.Value
import Watchdog.Foundations.Linq
import Watchdog.Foundations.GoMap

namespace Watchdog

open GoNumeric GoSort

def metaSumry : String := "node-metadata"
def headerSumry : String := "block-header"
def chainSumry : String := "chain-config"
def committeeSumry : String := "staking-committee"
def blockMax : String := "block-max"

def shardKey (shard : UInt32) : String := toString shard.toNat

def shardEntry (q : Linq.Query) (includeRecords : Bool) (group : List BlockHeader) : Dict :=
  let block := group.map fun c => c.Payload.BlockNumber
  let epoch := group.map fun c => c.Payload.Epoch
  let uniqEpochs := sliceStable (fun a b => decide (a > b)) (q.distinct epoch)
  let uniqBlockNums := sliceStable (fun a b => decide (a > b)) (q.distinct block)
  let entry : Dict :=
    [("block-min", .ofUInt64? (q.min block)),
     (blockMax, .ofUInt64? (q.max block)),
     ("epoch-min", .ofUInt64? (q.min epoch)),
     ("epoch-max", .ofUInt64? (q.max epoch)),
     ("uniq-epochs", .uint64s uniqEpochs),
     ("uniq-blocks", .uint64s uniqBlockNums)]
  if includeRecords then
    GoMap.set (GoMap.set entry "records" (.slice (group.map .blockHeader))) "latest-block"
      (.ofBlockHeader? (q.firstWith
        (fun c => (GoValue.ofUInt64? (q.max block)).eqUInt64 c.Payload.BlockNumber) group))
  else entry

def blockHeaderSummary (q : Linq.Query) (headers : List BlockHeader) (includeRecords : Bool)
    (sum : Dict) : Dict :=
  (q.groupBy (fun node => node.Payload.ShardID) headers).foldl
    (fun sum value => GoMap.set sum (shardKey value.1) (.anyMap (shardEntry q includeRecords value.2)))
    sum

def blocks (hs : List BlockHeader) : List UInt64 := hs.map fun c => c.Payload.BlockNumber

def epochs (hs : List BlockHeader) : List UInt64 := hs.map fun c => c.Payload.Epoch

def IsMaxOf (xs : List UInt64) (m : UInt64) : Prop := m ∈ xs ∧ ∀ b ∈ xs, b ≤ m

def IsMinOf (xs : List UInt64) (m : UInt64) : Prop := m ∈ xs ∧ ∀ b ∈ xs, m ≤ b

def IsUniqDesc (xs l : List UInt64) : Prop :=
  l.Pairwise (· > ·) ∧ (∀ b, b ∈ l ↔ b ∈ xs) ∧
    (∀ m, IsMaxOf xs m → l.head? = some m) ∧ (∀ m, IsMinOf xs m → l.getLast? = some m)

structure ShardSummary (hs : List BlockHeader) (entry : Dict) : Prop where
  records : entry.lookup "records" = some (.slice (hs.map .blockHeader))
  block_max : ∃ mx, entry.lookup blockMax = some (.uint64 mx) ∧ IsMaxOf (blocks hs) mx ∧
    ∃ h, hs.find? (fun c => c.Payload.BlockNumber = mx) = some h ∧
      entry.lookup "latest-block" = some (.blockHeader h)
  block_min : ∃ mn, entry.lookup "block-min" = some (.uint64 mn) ∧ IsMinOf (blocks hs) mn
  epoch_max : ∃ mx, entry.lookup "epoch-max" = some (.uint64 mx) ∧ IsMaxOf (epochs hs) mx
  epoch_min : ∃ mn, entry.lookup "epoch-min" = some (.uint64 mn) ∧ IsMinOf (epochs hs) mn
  uniq_blocks : ∃ l, entry.lookup "uniq-blocks" = some (.uint64s l) ∧ IsUniqDesc (blocks hs) l
  uniq_epochs : ∃ l, entry.lookup "uniq-epochs" = some (.uint64s l) ∧ IsUniqDesc (epochs hs) l

theorem shardKey_injective : Function.Injective shardKey := by
  intro a b h
  have hnat : a.toNat = b.toNat := Nat.repr_inj.mp h
  exact UInt32.toNat_inj.mp hnat

theorem isMaxOf_of_max? {xs : List UInt64} {m : UInt64} (h : xs.max? = some m) : IsMaxOf xs m :=
  List.max?_eq_some_iff.mp h

theorem isMaxOf_unique {xs : List UInt64} {a b : UInt64} (ha : IsMaxOf xs a) (hb : IsMaxOf xs b) : a = b :=
  le_antisymm (hb.2 a ha.1) (ha.2 b hb.1)

theorem isMinOf_of_min? {xs : List UInt64} {m : UInt64} (h : xs.min? = some m) : IsMinOf xs m :=
  List.min?_eq_some_iff.mp h

theorem isUniqDesc_sliceStable (xs : List UInt64) :
    IsUniqDesc xs (sliceStable (fun a b => decide (a > b)) xs.eraseDups) := by
  have hmem : ∀ b, b ∈ sliceStable (fun a b => decide (a > b)) xs.eraseDups ↔ b ∈ xs := by
    intro b
    rw [(sliceStable_perm _ _).mem_iff, List.mem_eraseDups]
  have hdesc := sliceStable_strictDesc (Linq.nodup_eraseDups xs)
  refine ⟨hdesc, hmem, fun m hm => ?_, fun m hm => ?_⟩
  · exact head?_of_pairwise_gt hdesc hmem (List.max?_eq_some_iff.mpr hm)
  · exact getLast?_of_pairwise_gt hdesc hmem (List.min?_eq_some_iff.mpr hm)

section Spec

variable {q : Linq.Query}

theorem lookup_shardEntry_blockMax (q : Linq.Query) (b : Bool) (g : List BlockHeader) :
    (shardEntry q b g).lookup blockMax = some (.ofUInt64? (q.max (blocks g))) := by
  cases b <;> rfl

theorem lookup_shardEntry_blockMin (q : Linq.Query) (b : Bool) (g : List BlockHeader) :
    (shardEntry q b g).lookup "block-min" = some (.ofUInt64? (q.min (blocks g))) := by
  cases b <;> rfl

theorem lookup_shardEntry_epochMax (q : Linq.Query) (b : Bool) (g : List BlockHeader) :
    (shardEntry q b g).lookup "epoch-max" = some (.ofUInt64? (q.max (epochs g))) := by
  cases b <;> rfl

theorem lookup_shardEntry_epochMin (q : Linq.Query) (b : Bool) (g : List BlockHeader) :
    (shardEntry q b g).lookup "epoch-min" = some (.ofUInt64? (q.min (epochs g))) := by
  cases b <;> rfl

theorem lookup_shardEntry_uniqBlocks (q : Linq.Query) (b : Bool) (g : List BlockHeader) :
    (shardEntry q b g).lookup "uniq-blocks" =
      some (.uint64s (sliceStable (fun a b => decide (a > b)) (q.distinct (blocks g)))) := by
  cases b <;> rfl

theorem lookup_shardEntry_uniqEpochs (q : Linq.Query) (b : Bool) (g : List BlockHeader) :
    (shardEntry q b g).lookup "uniq-epochs" =
      some (.uint64s (sliceStable (fun a b => decide (a > b)) (q.distinct (epochs g)))) := by
  cases b <;> rfl

theorem lookup_shardEntry_records (q : Linq.Query) (g : List BlockHeader) :
    (shardEntry q true g).lookup "records" = some (.slice (g.map .blockHeader)) := by
  rfl

theorem lookup_shardEntry_latestBlock (q : Linq.Query) (g : List BlockHeader) :
    (shardEntry q true g).lookup "latest-block" =
      some (.ofBlockHeader? (q.firstWith
        (fun c => (GoValue.ofUInt64? (q.max (blocks g))).eqUInt64 c.Payload.BlockNumber) g)) := by
  simp [shardEntry, blocks]

theorem shardEntry_spec (hq : q.Documented) {hs : List BlockHeader} (hne : hs ≠ []) :
    ShardSummary hs (shardEntry q true hs) := by
  have hb : blocks hs ≠ [] := by simpa [blocks] using hne
  have he : epochs hs ≠ [] := by simpa [epochs] using hne
  obtain ⟨bmx, hbmx⟩ := exists_max?_of_ne_nil hb
  obtain ⟨bmn, hbmn⟩ := exists_min?_of_ne_nil hb
  obtain ⟨emx, hemx⟩ := exists_max?_of_ne_nil he
  obtain ⟨emn, hemn⟩ := exists_min?_of_ne_nil he
  have hqbmx : q.max (blocks hs) = some bmx := (hq.max_eq _).trans hbmx
  constructor
  · exact lookup_shardEntry_records q hs
  · refine ⟨bmx, ?_, isMaxOf_of_max? hbmx, ?_⟩
    · simp [lookup_shardEntry_blockMax, hqbmx, GoValue.ofUInt64?]
    · obtain ⟨hin, -⟩ := isMaxOf_of_max? hbmx
      obtain ⟨c, hc, hcb⟩ := List.mem_map.mp hin
      cases hfind : hs.find? (fun c => c.Payload.BlockNumber = bmx) with
      | none =>
        exact absurd (List.find?_eq_none.mp hfind c hc) (by simpa using hcb)
      | some h =>
        refine ⟨h, rfl, ?_⟩
        have hpred : (fun c : BlockHeader => (GoValue.ofUInt64? (q.max (blocks hs))).eqUInt64
            c.Payload.BlockNumber) = fun c => decide (c.Payload.BlockNumber = bmx) := by
          funext c
          by_cases hcm : c.Payload.BlockNumber = bmx
          · simp [hqbmx, hcm]
          · simp [hqbmx, hcm, Ne.symm hcm]
        rw [lookup_shardEntry_latestBlock, hpred, hq.firstWith_eq, hfind]
        rfl
  · refine ⟨bmn, ?_, isMinOf_of_min? hbmn⟩
    simp [lookup_shardEntry_blockMin, hq.min_eq, hbmn, GoValue.ofUInt64?]
  · refine ⟨emx, ?_, isMaxOf_of_max? hemx⟩
    simp [lookup_shardEntry_epochMax, hq.max_eq, hemx, GoValue.ofUInt64?]
  · refine ⟨emn, ?_, isMinOf_of_min? hemn⟩
    simp [lookup_shardEntry_epochMin, hq.min_eq, hemn, GoValue.ofUInt64?]
  · exact ⟨_, lookup_shardEntry_uniqBlocks q true hs,
      hq.distinct_eq (blocks hs) ▸ isUniqDesc_sliceStable (blocks hs)⟩
  · exact ⟨_, lookup_shardEntry_uniqEpochs q true hs,
      hq.distinct_eq (epochs hs) ▸ isUniqDesc_sliceStable (epochs hs)⟩

theorem nodup_shardKeys (hq : q.Documented) {α : Type} (key : α → UInt32) (xs : List α) :
    ((q.groupBy key xs).map fun value => shardKey value.1).Nodup := by
  simpa [List.map_map, Function.comp_def] using (hq.nodup_keys key xs).map shardKey_injective

theorem nodup_summaryKeys (hq : q.Documented) (headers : List BlockHeader) :
    ((q.groupBy (fun node : BlockHeader => node.Payload.ShardID) headers).map
      fun value => shardKey value.1).Nodup :=
  nodup_shardKeys hq _ headers

theorem shardEntry_documented (hq : q.Documented) (b : Bool) (g : List BlockHeader) :
    shardEntry q b g = shardEntry Linq.Query.reference b g := by
  simp only [shardEntry, hq.distinct_eq, hq.max_eq, hq.min_eq, hq.firstWith_eq]
  rfl

theorem lookup_blockHeaderSummary_congr {q₁ q₂ : Linq.Query} (hq₁ : q₁.Documented)
    (hq₂ : q₂.Documented) (headers : List BlockHeader) (b : Bool) (sum : Dict) (k : String) :
    (blockHeaderSummary q₁ headers b sum).lookup k = (blockHeaderSummary q₂ headers b sum).lookup k := by
  have hentries : ∀ q : Linq.Query, q.Documented → blockHeaderSummary q headers b sum =
      (q.groupBy (fun node : BlockHeader => node.Payload.ShardID) headers).foldl
        (fun sum value => GoMap.set sum (shardKey value.1)
          (.anyMap (shardEntry Linq.Query.reference b value.2))) sum := by
    intro q hq
    simp only [blockHeaderSummary, shardEntry_documented hq]
  rw [hentries q₁ hq₁, hentries q₂ hq₂]
  exact GoMap.lookup_foldl_set_perm _ _ (hq₁.groupBy_perm_groupBy hq₂ _ headers)
    (nodup_summaryKeys hq₁ headers) sum k

theorem blockHeaderSummary_nil (hq : q.Documented) (headers : List BlockHeader) (b : Bool) :
    blockHeaderSummary q headers b [] =
      (q.groupBy (fun node : BlockHeader => node.Payload.ShardID) headers).map
        fun value => (shardKey value.1, .anyMap (shardEntry q b value.2)) := by
  rw [blockHeaderSummary, GoMap.foldl_set_of_fresh _ _ _ (nodup_summaryKeys hq headers) [] (by simp)]
  rfl

theorem mem_blockHeaderSummary_nil (hq : q.Documented) (headers : List BlockHeader) {e : String × GoValue} :
    e ∈ blockHeaderSummary q headers true [] ↔
      ∃ s ∈ headers.map (fun v => v.Payload.ShardID),
        e = (shardKey s, .anyMap (shardEntry q true (headers.filter fun c => c.Payload.ShardID = s))) := by
  rw [blockHeaderSummary_nil hq, List.mem_map]
  constructor
  · rintro ⟨p, hp, rfl⟩
    obtain ⟨hs, hg⟩ := (hq.mem_groupBy _).mp hp
    exact ⟨p.1, hs, by rw [hg]⟩
  · rintro ⟨s, hs, rfl⟩
    exact ⟨(s, _), (hq.mem_groupBy _).mpr ⟨hs, rfl⟩, rfl⟩

theorem nodup_keys_blockHeaderSummary_nil (hq : q.Documented) (headers : List BlockHeader) (b : Bool) :
    ((blockHeaderSummary q headers b []).map Prod.fst).Nodup := by
  rw [blockHeaderSummary_nil hq, List.map_map]
  exact nodup_summaryKeys hq headers

theorem blockHeaderSummary_spec (hq : q.Documented) (headers : List BlockHeader) (sum : Dict) :
    (∀ k, k ∉ headers.map (fun v => shardKey v.Payload.ShardID) →
      (blockHeaderSummary q headers true sum).lookup k = sum.lookup k) ∧
    ∀ v ∈ headers, ∃ entry,
      (blockHeaderSummary q headers true sum).lookup (shardKey v.Payload.ShardID) =
        some (.anyMap entry) ∧
      ShardSummary (headers.filter fun c => c.Payload.ShardID = v.Payload.ShardID) entry := by
  refine ⟨fun k hk => ?_, fun v hv => ?_⟩
  · apply GoMap.lookup_foldl_set_of_not_mem
    intro p hp hpk
    obtain ⟨hpk', -⟩ := (hq.mem_groupBy _).mp hp
    obtain ⟨w, hw, hwk⟩ := List.mem_map.mp hpk'
    exact hk (List.mem_map.mpr ⟨w, hw, by rw [← hpk, ← hwk]⟩)
  · have hp : (v.Payload.ShardID, headers.filter fun c => c.Payload.ShardID = v.Payload.ShardID) ∈
        q.groupBy (fun node : BlockHeader => node.Payload.ShardID) headers :=
      (hq.mem_groupBy _).mpr ⟨List.mem_map_of_mem hv, rfl⟩
    have hlookup : (blockHeaderSummary q headers true sum).lookup (shardKey v.Payload.ShardID) =
        some (.anyMap (shardEntry q true (headers.filter fun c => c.Payload.ShardID = v.Payload.ShardID))) :=
      GoMap.lookup_foldl_set_of_mem (fun value : UInt32 × List BlockHeader => shardKey value.1)
        (fun value : UInt32 × List BlockHeader => GoValue.anyMap (shardEntry q true value.2))
        _ (nodup_summaryKeys hq headers) sum hp
    exact ⟨_, hlookup, shardEntry_spec hq (List.ne_nil_of_mem (List.mem_filter.mpr ⟨hv, by simp⟩))⟩

theorem blockHeaderSummary_spec_two_shards :
    Linq.Query.reference.Documented ∧
    (∀ k, k ∉ [(0 : UInt32), 1].map shardKey →
      (blockHeaderSummary Linq.Query.reference
        [⟨⟨"0xa", 7, 0, "one1a", 7, 2, "t0", 100, [], "ff"⟩, "10.0.0.1:9500"⟩,
         ⟨⟨"0xb", 9, 1, "one1b", 9, 2, "t1", 101, [], "ff"⟩, "10.0.0.2:9500"⟩] true []).lookup k =
        none) ∧
    ∃ entry, (blockHeaderSummary Linq.Query.reference
        [⟨⟨"0xa", 7, 0, "one1a", 7, 2, "t0", 100, [], "ff"⟩, "10.0.0.1:9500"⟩,
         ⟨⟨"0xb", 9, 1, "one1b", 9, 2, "t1", 101, [], "ff"⟩, "10.0.0.2:9500"⟩] true []).lookup
        (shardKey 1) = some (.anyMap entry) ∧
      ShardSummary [⟨⟨"0xb", 9, 1, "one1b", 9, 2, "t1", 101, [], "ff"⟩, "10.0.0.2:9500"⟩] entry := by
  have h := blockHeaderSummary_spec Linq.Query.reference_documented
    [⟨⟨"0xa", 7, 0, "one1a", 7, 2, "t0", 100, [], "ff"⟩, "10.0.0.1:9500"⟩,
     ⟨⟨"0xb", 9, 1, "one1b", 9, 2, "t1", 101, [], "ff"⟩, "10.0.0.2:9500"⟩] []
  refine ⟨Linq.Query.reference_documented, fun k hk => h.1 k (by simpa using hk), ?_⟩
  simpa using h.2 _ (List.mem_cons_of_mem _ List.mem_cons_self)

end Spec

end Watchdog
