import Mathlib
import Watchdog.Model.Rpc
import Watchdog.Foundations.GoMap
import Watchdog.Foundations.Linq

namespace Watchdog

open GoNumeric GoMap GoSort

structure CheckSync where
  IP : String
  pdServiceKey : String
  chain : String
  blockNumber : UInt64
  shardHeight : UInt64
  syncTimer : UInt64
  deriving DecidableEq, Repr

abbrev ShardHeightMap := List (UInt32 × List (UInt64 × List BlockHeader))

def addHeader (shardHeightMap : ShardHeightMap) (v : BlockHeader) : ShardHeightMap :=
  let shard := v.Payload.ShardID
  let block := v.Payload.BlockNumber
  let heights := index shardHeightMap shard []
  set shardHeightMap shard (set heights block (index heights block [] ++ [v]))

def maxOfHeights (uniqueHeights : List Int64) : UInt64 :=
  uniqueHeights.foldl (fun maxHeight h => if h.toUInt64 > maxHeight then h.toUInt64 else maxHeight) 0

def heightLaunches (shardHeightMap : ShardHeightMap) (i : UInt32) (uniqueHeights : List Int64)
    (syncTimer tolerance : UInt64) (pdServiceKey chain : String) : List CheckSync :=
  let maxHeight := maxOfHeights uniqueHeights
  uniqueHeights.flatMap fun h =>
    if maxHeight - h.toUInt64 > tolerance then
      (index (index shardHeightMap i []) h.toUInt64 []).map fun v =>
        ⟨v.IP, pdServiceKey, chain, v.Payload.BlockNumber, maxHeight, syncTimer⟩
    else []

def checkShardHeight (ord : RangeOrder) (b : BlockHeaderContainer) (syncTimer tolerance : UInt64)
    (pdServiceKey chain : String) : List CheckSync :=
  let shardHeightMap := b.Nodes.foldl addHeader []
  (ord.arrange shardHeightMap).flatMap fun (i, s) =>
    heightLaunches shardHeightMap i ((ord.arrange s).map fun (h, _) => h.toInt64)
      syncTimer tolerance pdServiceKey chain

def maxHeightOf (nodes : List BlockHeader) (shard : UInt32) : UInt64 :=
  ((nodes.filter fun v => v.Payload.ShardID = shard).map fun v => v.Payload.BlockNumber).max?.getD 0

def OutOfSync (nodes : List BlockHeader) (tolerance : UInt64) (v : BlockHeader) : Prop :=
  tolerance.toNat < (maxHeightOf nodes v.Payload.ShardID).toNat - v.Payload.BlockNumber.toNat

instance (nodes : List BlockHeader) (tolerance : UInt64) : DecidablePred (OutOfSync nodes tolerance) :=
  fun _ => inferInstanceAs (Decidable (_ < _))

def syncCheckOf (nodes : List BlockHeader) (syncTimer : UInt64) (pdServiceKey chain : String)
    (v : BlockHeader) : CheckSync :=
  ⟨v.IP, pdServiceKey, chain, v.Payload.BlockNumber, maxHeightOf nodes v.Payload.ShardID, syncTimer⟩

section Grouping

theorem index_addHeader (m : ShardHeightMap) (v : BlockHeader) (i : UInt32) :
    index (addHeader m v) i [] =
      if v.Payload.ShardID = i then
        set (index m i []) v.Payload.BlockNumber (index (index m i []) v.Payload.BlockNumber [] ++ [v])
      else index m i [] := by
  unfold addHeader
  split
  · rename_i h
    subst h
    simp
  · rename_i h
    exact index_set_of_ne m (Ne.symm h) _ _

theorem bucket_addHeader (m : ShardHeightMap) (v : BlockHeader) (i : UInt32) (h : UInt64) :
    index (index (addHeader m v) i []) h [] =
      index (index m i []) h [] ++
        if v.Payload.ShardID = i ∧ v.Payload.BlockNumber = h then [v] else [] := by
  rw [index_addHeader]
  by_cases hi : v.Payload.ShardID = i
  · by_cases hh : v.Payload.BlockNumber = h
    · subst hi hh
      simp
    · simp [hi, hh, index_set_of_ne _ (Ne.symm hh)]
  · simp [hi]

theorem bucket_foldl (nodes : List BlockHeader) (m : ShardHeightMap) (i : UInt32) (h : UInt64) :
    index (index (nodes.foldl addHeader m) i []) h [] =
      index (index m i []) h [] ++
        nodes.filter fun v => v.Payload.ShardID = i ∧ v.Payload.BlockNumber = h := by
  induction nodes generalizing m with
  | nil => simp
  | cons v nodes ih =>
    rw [List.foldl_cons, ih, bucket_addHeader, List.filter_cons]
    by_cases hv : v.Payload.ShardID = i ∧ v.Payload.BlockNumber = h
    · simp [hv]
    · simp only [hv, if_false, List.append_nil, decide_false, Bool.false_eq_true]

theorem mem_shards_foldl (nodes : List BlockHeader) (m : ShardHeightMap) (i : UInt32) :
    i ∈ (nodes.foldl addHeader m).map Prod.fst ↔
      i ∈ m.map Prod.fst ∨ ∃ v ∈ nodes, v.Payload.ShardID = i := by
  induction nodes generalizing m with
  | nil => simp
  | cons v nodes ih =>
    rw [List.foldl_cons, ih]
    simp only [addHeader, mem_keys_set, List.mem_cons]
    constructor
    · rintro ((rfl | h) | ⟨w, hw, rfl⟩)
      · exact Or.inr ⟨v, Or.inl rfl, rfl⟩
      · exact Or.inl h
      · exact Or.inr ⟨w, Or.inr hw, rfl⟩
    · rintro (h | ⟨w, rfl | hw, rfl⟩)
      · exact Or.inl (Or.inr h)
      · exact Or.inl (Or.inl rfl)
      · exact Or.inr ⟨w, hw, rfl⟩

theorem nodup_shards_foldl (nodes : List BlockHeader) {m : ShardHeightMap}
    (hm : (m.map Prod.fst).Nodup) : ((nodes.foldl addHeader m).map Prod.fst).Nodup := by
  induction nodes generalizing m with
  | nil => exact hm
  | cons v nodes ih => exact ih (nodup_keys_set hm _ _)

theorem mem_heights_foldl (nodes : List BlockHeader) (m : ShardHeightMap) (i : UInt32) (h : UInt64) :
    h ∈ (index (nodes.foldl addHeader m) i []).map Prod.fst ↔
      h ∈ (index m i []).map Prod.fst ∨
        ∃ v ∈ nodes, v.Payload.ShardID = i ∧ v.Payload.BlockNumber = h := by
  induction nodes generalizing m with
  | nil => simp
  | cons v nodes ih =>
    rw [List.foldl_cons, ih, index_addHeader]
    by_cases hi : v.Payload.ShardID = i
    · simp only [hi, if_true, mem_keys_set, List.mem_cons]
      constructor
      · rintro ((rfl | h) | ⟨w, hw, hwi, rfl⟩)
        · exact Or.inr ⟨v, Or.inl rfl, hi, rfl⟩
        · exact Or.inl h
        · exact Or.inr ⟨w, Or.inr hw, hwi, rfl⟩
      · rintro (h | ⟨w, rfl | hw, hwi, rfl⟩)
        · exact Or.inl (Or.inr h)
        · exact Or.inl (Or.inl rfl)
        · exact Or.inr ⟨w, hw, hwi, rfl⟩
    · simp only [hi, if_false, List.mem_cons]
      constructor
      · rintro (h | ⟨w, hw, hwi, rfl⟩)
        · exact Or.inl h
        · exact Or.inr ⟨w, Or.inr hw, hwi, rfl⟩
      · rintro (h | ⟨w, rfl | hw, hwi, rfl⟩)
        · exact Or.inl h
        · exact absurd hwi hi
        · exact Or.inr ⟨w, hw, hwi, rfl⟩

theorem nodup_heights_foldl (nodes : List BlockHeader) {m : ShardHeightMap} (i : UInt32)
    (hm : ((index m i []).map Prod.fst).Nodup) :
    ((index (nodes.foldl addHeader m) i []).map Prod.fst).Nodup := by
  induction nodes generalizing m with
  | nil => exact hm
  | cons v nodes ih =>
    apply ih
    rw [index_addHeader]
    split
    · exact nodup_keys_set hm _ _
    · exact hm

end Grouping

theorem maxOfHeights_map (hs : List UInt64) : maxOfHeights (hs.map UInt64.toInt64) = hs.max?.getD 0 := by
  have hstep : (fun maxHeight h => if h.toInt64.toUInt64 > maxHeight then h.toInt64.toUInt64
      else maxHeight) = fun maxHeight h : UInt64 => max maxHeight h := by
    funext mx h
    simp only [UInt64.toUInt64_toInt64, gt_iff_lt]
    by_cases hlt : mx < h
    · simp [hlt, max_eq_right hlt.le]
    · simp [hlt, max_eq_left (not_lt.mp hlt)]
  unfold maxOfHeights
  rw [List.foldl_map, hstep]
  cases hs with
  | nil => rfl
  | cons a t =>
    rw [List.max?_cons', List.foldl_cons, max_eq_right UInt64.zero_le]
    rfl

theorem le_maxHeightOf {nodes : List BlockHeader} {v : BlockHeader} (hv : v ∈ nodes) :
    v.Payload.BlockNumber ≤ maxHeightOf nodes v.Payload.ShardID := by
  have hin : v.Payload.BlockNumber ∈
      (nodes.filter fun w => w.Payload.ShardID = v.Payload.ShardID).map fun w => w.Payload.BlockNumber :=
    List.mem_map_of_mem (List.mem_filter.mpr ⟨hv, by simp⟩)
  obtain ⟨m, hm⟩ := exists_max?_of_ne_nil (List.ne_nil_of_mem hin)
  rw [maxHeightOf, hm, Option.getD_some]
  exact (List.max?_eq_some_iff.mp hm).2 _ hin

theorem heights_entry {nodes : List BlockHeader} {i : UInt32} {s : List (UInt64 × List BlockHeader)}
    (hmem : (i, s) ∈ nodes.foldl addHeader []) :
    index (nodes.foldl addHeader []) i [] = s ∧ (s.map Prod.fst).Nodup ∧
      ∀ h, h ∈ s.map Prod.fst ↔ ∃ v ∈ nodes, v.Payload.ShardID = i ∧ v.Payload.BlockNumber = h := by
  have hidx : index (nodes.foldl addHeader []) i [] = s := by
    simp [index, lookup_of_mem (nodup_shards_foldl nodes (by simp)) hmem]
  refine ⟨hidx, ?_, fun h => ?_⟩
  · rw [← hidx]
    exact nodup_heights_foldl nodes i (by simp [index])
  · rw [← hidx, mem_heights_foldl]
    simp [index]

section Launches

variable (nodes : List BlockHeader) (syncTimer tolerance : UInt64) (pdServiceKey chain : String)

theorem launch_bucket (i : UInt32) (h : UInt64) (hle : h ≤ maxHeightOf nodes i) :
    (if maxHeightOf nodes i - h > tolerance then
      (index (index (nodes.foldl addHeader []) i []) h []).map fun v =>
        (⟨v.IP, pdServiceKey, chain, v.Payload.BlockNumber, maxHeightOf nodes i, syncTimer⟩ : CheckSync)
    else []) =
      (((nodes.filter fun v => v.Payload.ShardID = i).filter (OutOfSync nodes tolerance)).filter
        fun v => v.Payload.BlockNumber = h).map (syncCheckOf nodes syncTimer pdServiceKey chain) := by
  have hsame : ((nodes.filter fun v => v.Payload.ShardID = i).filter (OutOfSync nodes tolerance)).filter
      (fun v => v.Payload.BlockNumber = h) =
      nodes.filter fun v => (v.Payload.ShardID = i ∧ v.Payload.BlockNumber = h) ∧
        maxHeightOf nodes i - h > tolerance := by
    rw [List.filter_filter, List.filter_filter]
    refine List.filter_congr fun v _ => ?_
    by_cases hvi : v.Payload.ShardID = i
    · by_cases hvh : v.Payload.BlockNumber = h
      · have hiff : OutOfSync nodes tolerance v ↔ maxHeightOf nodes i - h > tolerance := by
          rw [OutOfSync, hvi, hvh, gt_iff_lt, UInt64.lt_iff_toNat_lt, UInt64.toNat_sub_of_le _ _ hle]
        simp [hvi, hvh, hiff]
      · simp [hvh]
    · simp [hvi]
  have hmap : ∀ v ∈ nodes.filter (fun v => v.Payload.ShardID = i ∧ v.Payload.BlockNumber = h),
      (⟨v.IP, pdServiceKey, chain, v.Payload.BlockNumber, maxHeightOf nodes i, syncTimer⟩ : CheckSync) =
        syncCheckOf nodes syncTimer pdServiceKey chain v := by
    intro v hv
    simp only [List.mem_filter, decide_eq_true_eq] at hv
    simp [syncCheckOf, hv.2.1]
  rw [bucket_foldl, hsame, index_nil, index_nil, List.nil_append]
  by_cases hC : maxHeightOf nodes i - h > tolerance
  · simp only [hC, if_true, and_true]
    exact List.map_congr_left hmap
  · simp [hC]

theorem heightLaunches_perm (i : UInt32) (hs : List UInt64) (hnd : hs.Nodup)
    (hmem : ∀ h, h ∈ hs ↔ ∃ v ∈ nodes, v.Payload.ShardID = i ∧ v.Payload.BlockNumber = h) :
    (heightLaunches (nodes.foldl addHeader []) i (hs.map UInt64.toInt64) syncTimer tolerance
      pdServiceKey chain).Perm
      (((nodes.filter fun v => v.Payload.ShardID = i).filter (OutOfSync nodes tolerance)).map
        (syncCheckOf nodes syncTimer pdServiceKey chain)) := by
  have hmax : maxOfHeights (hs.map UInt64.toInt64) = maxHeightOf nodes i := by
    rw [maxOfHeights_map, maxHeightOf, max?_congr]
    intro x
    rw [hmem]
    simp only [List.mem_map, List.mem_filter, decide_eq_true_eq]
    constructor
    · rintro ⟨v, hv, hvi, rfl⟩
      exact ⟨v, ⟨hv, hvi⟩, rfl⟩
    · rintro ⟨v, ⟨hv, hvi⟩, rfl⟩
      exact ⟨v, hv, hvi, rfl⟩
  have hterm : ∀ h ∈ hs,
      (if maxHeightOf nodes i - h > tolerance then
        (index (index (nodes.foldl addHeader []) i []) h []).map fun v =>
          (⟨v.IP, pdServiceKey, chain, v.Payload.BlockNumber, maxHeightOf nodes i, syncTimer⟩ : CheckSync)
      else []) =
      (((nodes.filter fun v => v.Payload.ShardID = i).filter (OutOfSync nodes tolerance)).filter
        fun v => v.Payload.BlockNumber = h).map (syncCheckOf nodes syncTimer pdServiceKey chain) := by
    intro h hh
    obtain ⟨w, hw, hwi, hwh⟩ := (hmem h).mp hh
    exact launch_bucket nodes syncTimer tolerance pdServiceKey chain i h
      (hwi ▸ hwh ▸ le_maxHeightOf hw)
  have hcover : ∀ v : BlockHeader,
      v ∈ (nodes.filter fun v => v.Payload.ShardID = i).filter (OutOfSync nodes tolerance) →
        v.Payload.BlockNumber ∈ hs := by
    intro v hv
    simp only [List.mem_filter, decide_eq_true_eq] at hv
    exact (hmem _).mpr ⟨v, hv.1.1, hv.1.2, rfl⟩
  unfold heightLaunches
  simp only [hmax, List.flatMap_map, UInt64.toUInt64_toInt64]
  rw [List.flatMap_congr hterm, ← List.map_flatMap]
  exact (Linq.flatMap_filter_perm (fun v : BlockHeader => v.Payload.BlockNumber) hs hnd _ hcover).map _

end Launches

theorem checkShardHeight_launches (ord : RangeOrder) (b : BlockHeaderContainer)
    (syncTimer tolerance : UInt64) (pdServiceKey chain : String) :
    (checkShardHeight ord b syncTimer tolerance pdServiceKey chain).Perm
      ((b.Nodes.filter (OutOfSync b.Nodes tolerance)).map
        (syncCheckOf b.Nodes syncTimer pdServiceKey chain)) ∧
    ∀ v ∈ b.Nodes, v.Payload.BlockNumber ≤ maxHeightOf b.Nodes v.Payload.ShardID := by
  refine ⟨?_, fun v hv => le_maxHeightOf hv⟩
  unfold checkShardHeight
  have hkeys : ((b.Nodes.foldl addHeader []).map Prod.fst).Nodup :=
    nodup_shards_foldl b.Nodes (by simp)
  have hcover : ∀ v : BlockHeader, v ∈ b.Nodes.filter (OutOfSync b.Nodes tolerance) →
      v.Payload.ShardID ∈ (b.Nodes.foldl addHeader []).map Prod.fst := by
    intro v hv
    exact (mem_shards_foldl _ _ _).mpr (Or.inr ⟨v, (List.mem_filter.mp hv).1, rfl⟩)
  have hper : ∀ p ∈ b.Nodes.foldl addHeader [],
      (heightLaunches (b.Nodes.foldl addHeader []) p.1
          ((ord.arrange p.2).map fun (h : UInt64 × List BlockHeader) => h.1.toInt64)
          syncTimer tolerance pdServiceKey chain).Perm
      (((b.Nodes.filter fun v : BlockHeader => v.Payload.ShardID = p.1).filter
        (OutOfSync b.Nodes tolerance)).map (syncCheckOf b.Nodes syncTimer pdServiceKey chain)) := by
    rintro ⟨i, s⟩ hp
    obtain ⟨-, hnd, hmemh⟩ := heights_entry hp
    have hconv : ((ord.arrange s).map fun (p : UInt64 × List BlockHeader) => p.1.toInt64) =
        ((ord.arrange s).map Prod.fst).map UInt64.toInt64 := by
      simp [List.map_map, Function.comp_def]
    have hperm := heightLaunches_perm b.Nodes syncTimer tolerance pdServiceKey chain i
      ((ord.arrange s).map Prod.fst) (((ord.perm s).map Prod.fst).nodup_iff.mpr hnd)
      fun h => (((ord.perm s).map Prod.fst).mem_iff).trans (hmemh h)
    rw [← hconv] at hperm
    exact hperm
  refine ((ord.perm _).flatMap_right _).trans ((List.Perm.flatMap_left _ hper).trans ?_)
  have hflat : ((b.Nodes.foldl addHeader []).flatMap fun p =>
      ((b.Nodes.filter fun v => v.Payload.ShardID = p.1).filter (OutOfSync b.Nodes tolerance)).map
        (syncCheckOf b.Nodes syncTimer pdServiceKey chain)) =
      (((b.Nodes.foldl addHeader []).map Prod.fst).flatMap fun i =>
        (b.Nodes.filter (OutOfSync b.Nodes tolerance)).filter fun v => v.Payload.ShardID = i).map
          (syncCheckOf b.Nodes syncTimer pdServiceKey chain) := by
    rw [List.flatMap_map, List.map_flatMap]
    refine List.flatMap_congr fun p _ => ?_
    rw [List.filter_filter, List.filter_filter]
    congr 1
    exact List.filter_congr fun v _ => Bool.and_comm _ _
  rw [hflat]
  exact (Linq.flatMap_filter_perm (fun v : BlockHeader => v.Payload.ShardID) _ hkeys _ hcover).map _

end Watchdog
