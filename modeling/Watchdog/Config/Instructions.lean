import Mathlib
import Watchdog.Config.Params

namespace Watchdog

open GoMap (RangeOrder set)

structure Instruction where
  watchParams : WatchParams
  superCommittee : List (Int64 × Committee)
  deriving DecidableEq, Repr

def shardOfFile (file : String) : Except String Int64 :=
  let shard := GoStd.base (GoStd.trimSuffix file (GoStd.ext file))
  GoStd.atoiChar (Char.ofNat (GoStd.lastByte shard).toNat)

def loadMachineFile (fs : GoStd.FileSystem) (t : WatchParams) (byShard : List (Int64 × Committee))
    (file : String) : Except (Option String) (List (Int64 × Committee)) :=
  match shardOfFile file with
  | .error err => .error (some err)
  | .ok id =>
    match fs.openFile file with
    | some _ => .error none
    | none =>
      let ipList := (fs.scan file).1.map fun line => line ++ ":" ++ GoStd.itoa t.Network.RPCPort
      match (fs.scan file).2 with
      | some err => .error (some err)
      | none => .ok (set byShard id ⟨file, ipList⟩)

def duplicatesStep (i : Int64) (acc : List String × List (String × String)) (m : String) :
    List String × List (String × String) :=
  match acc.2.lookup m with
  | some prev => (acc.1 ++ [GoStd.itoa i ++ ": " ++ m, prev ++ ": " ++ m], acc.2)
  | none => (acc.1, set acc.2 m (GoStd.itoa i))

def duplicates (ord : RangeOrder) (byShard : List (Int64 × Committee)) :
    List String × List (String × String) :=
  (ord.arrange byShard).foldl (fun acc s => s.2.members.foldl (duplicatesStep s.1) acc) ([], [])

def newInstructions (fs : GoStd.FileSystem) (unmarshalStrict : List UInt8 → Except String WatchParams)
    (ord : RangeOrder) (yamlPath : String) : Option Instruction × Option String :=
  match fs.readFile yamlPath with
  | .error err => (none, some err)
  | .ok rawYAML =>
    match unmarshalStrict rawYAML with
    | .error err => (none, some err)
    | .ok t =>
      match t.sanityCheck fs with
      | some oops => (none, some oops)
      | none =>
        match t.DistributionFiles.MachineIPList.foldlM (loadMachineFile fs t) [] with
        | .error err => (none, err)
        | .ok byShard =>
          let (dups, nodeList) := duplicates ord byShard
          if nodeList.length = 0 then (none, some "empty node list")
          else if dups.length > 0 then
            (none, some ("Duplicate IPs detected.\n" ++ String.intercalate "\n" dups))
          else (some ⟨t, byShard⟩, none)

def fileCommittee (fs : GoStd.FileSystem) (t : WatchParams) (file : String) : Committee :=
  ⟨file, (fs.scan file).1.map fun line => line ++ ":" ++ GoStd.itoa t.Network.RPCPort⟩

def FileLoads (fs : GoStd.FileSystem) (file : String) : Prop :=
  (∃ id, shardOfFile file = .ok id) ∧ fs.openFile file = none ∧ (fs.scan file).2 = none

section Load

variable (fs : GoStd.FileSystem) (t : WatchParams)

theorem loadMachineFile_eq_ok {byShard r : List (Int64 × Committee)} {file : String} :
    loadMachineFile fs t byShard file = .ok r ↔
      ∃ id, shardOfFile file = .ok id ∧ fs.openFile file = none ∧ (fs.scan file).2 = none ∧
        r = set byShard id (fileCommittee fs t file) := by
  unfold loadMachineFile
  cases hs : shardOfFile file with
  | error err => simp
  | ok id =>
    cases ho : fs.openFile file with
    | some e => simp
    | none =>
      cases hc : (fs.scan file).2 with
      | some err => simp
      | none => simp [fileCommittee, eq_comm]

theorem loadMachineFile_error_none {byShard : List (Int64 × Committee)} {file : String}
    (h : loadMachineFile fs t byShard file = .error none) : (fs.openFile file).isSome := by
  unfold loadMachineFile at h
  split at h
  · cases h
  · split at h
    · simp_all
    · split at h <;> cases h

theorem getLast?_filter_cons_or {α γ : Type} (p : α → Bool) (g : α → γ) (x : α) (xs : List α)
    (o : Option γ) :
    (((x :: xs).filter p).getLast?.map g).or o =
      ((xs.filter p).getLast?.map g).or ((if p x then some (g x) else none).or o) := by
  cases hx : p x with
  | false => simp [hx]
  | true =>
    rw [List.filter_cons, if_pos hx, List.getLast?_cons]
    cases (xs.filter p).getLast? <;> simp

theorem foldlM_loadMachineFile_ok (files : List String) :
    ∀ {byShard r : List (Int64 × Committee)}, files.foldlM (loadMachineFile fs t) byShard = .ok r →
      (∀ file ∈ files, FileLoads fs file) ∧
      ∀ id, r.lookup id = ((files.filter fun file => shardOfFile file = .ok id).getLast?.map
        (fileCommittee fs t)).or (byShard.lookup id) := by
  induction files with
  | nil =>
    intro byShard r h
    cases h
    simp
  | cons file files ih =>
    intro byShard r h
    rw [List.foldlM_cons] at h
    obtain ⟨mid, hmid, hrest⟩ := GoStd.bind_eq_ok.mp h
    obtain ⟨id, hid, hopen, hscan, rfl⟩ := (loadMachineFile_eq_ok fs t).mp hmid
    obtain ⟨hloads, hlookup⟩ := ih hrest
    refine ⟨?_, fun k => ?_⟩
    · intro f hf
      rcases List.mem_cons.mp hf with rfl | hf
      · exact ⟨⟨id, hid⟩, hopen, hscan⟩
      · exact hloads f hf
    · have hhead : (set byShard id (fileCommittee fs t file)).lookup k =
          (if decide (shardOfFile file = .ok k) then some (fileCommittee fs t file) else none).or
            (byShard.lookup k) := by
        by_cases hk : k = id
        · subst hk
          simp [hid]
        · have hne : shardOfFile file ≠ .ok k := by
            rw [hid]
            exact fun h => hk (Except.ok.inj h).symm
          simp [hne, GoMap.lookup_set_of_ne _ hk]
      rw [hlookup k, getLast?_filter_cons_or, hhead]

theorem foldlM_loadMachineFile_error_none (files : List String) :
    ∀ {byShard : List (Int64 × Committee)}, files.foldlM (loadMachineFile fs t) byShard = .error none →
      ∃ file ∈ files, (fs.openFile file).isSome := by
  induction files with
  | nil =>
    intro byShard h
    cases h
  | cons file files ih =>
    intro byShard h
    rw [List.foldlM_cons] at h
    rcases GoStd.bind_eq_error.mp h with h | ⟨mid, -, hrest⟩
    · exact ⟨file, List.mem_cons_self, loadMachineFile_error_none fs t h⟩
    · obtain ⟨f, hf, hopen⟩ := ih hrest
      exact ⟨f, List.mem_cons_of_mem _ hf, hopen⟩

end Load

def memberPairs (byShard : List (Int64 × Committee)) : List (Int64 × String) :=
  byShard.flatMap fun s => s.2.members.map fun m => (s.1, m)

def addresses (byShard : List (Int64 × Committee)) : List String :=
  byShard.flatMap fun s => s.2.members

section Duplicates

theorem mem_keys_of_lookup {m : List (String × String)} {k v : String} (h : m.lookup k = some v) :
    k ∈ m.map Prod.fst := by
  by_contra hk
  rw [← GoMap.lookup_eq_none_iff_keys] at hk
  rw [hk] at h
  cases h

theorem duplicatesStep_fst_eq_nil (i : Int64) (acc : List String × List (String × String)) (m : String) :
    (duplicatesStep i acc m).1 = [] ↔ acc.1 = [] ∧ m ∉ acc.2.map Prod.fst := by
  unfold duplicatesStep
  cases h : acc.2.lookup m with
  | some prev => simp [mem_keys_of_lookup h]
  | none => simp [(GoMap.lookup_eq_none_iff_keys _ _).mp h]

theorem mem_keys_duplicatesStep (i : Int64) (acc : List String × List (String × String)) (m k : String) :
    k ∈ (duplicatesStep i acc m).2.map Prod.fst ↔ k = m ∨ k ∈ acc.2.map Prod.fst := by
  unfold duplicatesStep
  cases h : acc.2.lookup m with
  | some prev =>
    constructor
    · exact Or.inr
    · rintro (rfl | hk)
      · exact mem_keys_of_lookup h
      · exact hk
  | none => exact GoMap.mem_keys_set _ _ _ _

theorem mem_keys_foldl_duplicatesStep (ps : List (Int64 × String)) :
    ∀ acc k, k ∈ (ps.foldl (fun acc p => duplicatesStep p.1 acc p.2) acc).2.map Prod.fst ↔
      k ∈ ps.map Prod.snd ∨ k ∈ acc.2.map Prod.fst := by
  induction ps with
  | nil => simp
  | cons p ps ih =>
    intro acc k
    rw [List.foldl_cons, ih, mem_keys_duplicatesStep, List.map_cons, List.mem_cons]
    tauto

theorem foldl_duplicatesStep_fst_eq_nil (ps : List (Int64 × String)) :
    ∀ acc, (ps.foldl (fun acc p => duplicatesStep p.1 acc p.2) acc).1 = [] ↔
      acc.1 = [] ∧ (ps.map Prod.snd).Nodup ∧ ∀ m ∈ ps.map Prod.snd, m ∉ acc.2.map Prod.fst := by
  induction ps with
  | nil => simp
  | cons p ps ih =>
    intro acc
    rw [List.foldl_cons, ih, duplicatesStep_fst_eq_nil]
    simp only [mem_keys_duplicatesStep, List.map_cons, List.nodup_cons, List.mem_cons,
      forall_eq_or_imp, not_or]
    constructor
    · rintro ⟨⟨hnil, hfresh⟩, hnd, hrest⟩
      exact ⟨hnil, ⟨fun hp => (hrest _ hp).1 rfl, hnd⟩, hfresh, fun m hm => (hrest m hm).2⟩
    · rintro ⟨hnil, ⟨hp, hnd⟩, hfresh, hrest⟩
      exact ⟨⟨hnil, hfresh⟩, hnd, fun m hm => ⟨fun he => hp (he ▸ hm), hrest m hm⟩⟩

variable (ord : RangeOrder) (byShard : List (Int64 × Committee))

theorem duplicates_eq :
    duplicates ord byShard =
      (memberPairs (ord.arrange byShard)).foldl (fun acc p => duplicatesStep p.1 acc p.2) ([], []) := by
  simp [duplicates, memberPairs, List.foldl_flatMap, List.foldl_map]

theorem map_snd_memberPairs : (memberPairs byShard).map Prod.snd = addresses byShard := by
  simp [memberPairs, addresses, List.map_flatMap]

theorem addresses_arrange_perm : (addresses (ord.arrange byShard)).Perm (addresses byShard) :=
  (ord.perm byShard).flatMap_right _

theorem duplicates_fst_eq_nil_iff : (duplicates ord byShard).1 = [] ↔ (addresses byShard).Nodup := by
  rw [duplicates_eq, foldl_duplicatesStep_fst_eq_nil, map_snd_memberPairs,
    (addresses_arrange_perm ord byShard).nodup_iff]
  simp

theorem length_duplicates_snd_eq_zero_iff :
    (duplicates ord byShard).2.length = 0 ↔ addresses byShard = [] := by
  have hkeys : ∀ k, k ∈ (duplicates ord byShard).2.map Prod.fst ↔ k ∈ addresses byShard := by
    intro k
    rw [duplicates_eq, mem_keys_foldl_duplicatesStep, map_snd_memberPairs,
      (addresses_arrange_perm ord byShard).mem_iff]
    simp
  rw [List.length_eq_zero_iff, ← List.map_eq_nil_iff (f := Prod.fst), List.eq_nil_iff_forall_not_mem,
    List.eq_nil_iff_forall_not_mem]
  simp only [hkeys]

end Duplicates

section Result

variable {fs : GoStd.FileSystem} {unmarshalStrict : List UInt8 → Except String WatchParams}
  {ord : RangeOrder} {yamlPath : String}

theorem newInstructions_eq_none_none (h : newInstructions fs unmarshalStrict ord yamlPath = (none, none)) :
    ∃ rawYAML t, fs.readFile yamlPath = .ok rawYAML ∧ unmarshalStrict rawYAML = .ok t ∧
      t.sanityCheck fs = none ∧ ∃ file ∈ t.DistributionFiles.MachineIPList, (fs.openFile file).isSome := by
  unfold newInstructions at h
  cases hread : fs.readFile yamlPath with
  | error err => simp [hread] at h
  | ok rawYAML =>
    cases hparse : unmarshalStrict rawYAML with
    | error err => simp [hread, hparse] at h
    | ok t =>
      cases hsanity : t.sanityCheck fs with
      | some oops => simp [hread, hparse, hsanity] at h
      | none =>
        refine ⟨rawYAML, t, rfl, hparse, hsanity, ?_⟩
        cases hload : t.DistributionFiles.MachineIPList.foldlM (loadMachineFile fs t) [] with
        | error err =>
          simp only [hread, hparse, hsanity, hload, Prod.mk.injEq, true_and] at h
          subst h
          exact foldlM_loadMachineFile_error_none fs t _ hload
        | ok byShard =>
          simp only [hread, hparse, hsanity, hload] at h
          split_ifs at h <;> simp at h

theorem newInstructions_eq_some {instr : Instruction} {err : Option String}
    (h : newInstructions fs unmarshalStrict ord yamlPath = (some instr, err)) :
    err = none ∧
      (∃ rawYAML, fs.readFile yamlPath = .ok rawYAML ∧ unmarshalStrict rawYAML = .ok instr.watchParams) ∧
      instr.watchParams.sanityCheck fs = none ∧
      (∀ file ∈ instr.watchParams.DistributionFiles.MachineIPList, FileLoads fs file) ∧
      (∀ id, instr.superCommittee.lookup id =
        (instr.watchParams.DistributionFiles.MachineIPList.filter fun file =>
          shardOfFile file = .ok id).getLast?.map (fileCommittee fs instr.watchParams)) ∧
      (addresses instr.superCommittee).Nodup ∧ addresses instr.superCommittee ≠ [] := by
  unfold newInstructions at h
  cases hread : fs.readFile yamlPath with
  | error e => simp [hread] at h
  | ok rawYAML =>
    cases hparse : unmarshalStrict rawYAML with
    | error e => simp [hread, hparse] at h
    | ok t =>
      cases hsanity : t.sanityCheck fs with
      | some oops => simp [hread, hparse, hsanity] at h
      | none =>
        cases hload : t.DistributionFiles.MachineIPList.foldlM (loadMachineFile fs t) [] with
        | error e => simp [hread, hparse, hsanity, hload] at h
        | ok byShard =>
          simp only [hread, hparse, hsanity, hload] at h
          split_ifs at h with hempty hdup
          · simp at h
          · simp at h
          · simp only [Prod.mk.injEq, Option.some.injEq] at h
            obtain ⟨rfl, rfl⟩ := h
            obtain ⟨hloads, hlookup⟩ := foldlM_loadMachineFile_ok fs t _ hload
            refine ⟨rfl, ⟨rawYAML, rfl, hparse⟩, hsanity, hloads, fun id => by simpa using hlookup id,
              ?_, ?_⟩
            · exact (duplicates_fst_eq_nil_iff ord byShard).mp (List.eq_nil_of_length_eq_zero (by omega))
            · exact fun hnil => hempty ((length_duplicates_snd_eq_zero_iff ord byShard).mpr hnil)

theorem newInstructions_shard_unique {instr : Instruction} {err : Option String}
    (h : newInstructions fs unmarshalStrict ord yamlPath = (some instr, err)) :
    ∀ a ∈ instr.superCommittee, ∀ b ∈ instr.superCommittee, ∀ m ∈ a.2.members, m ∈ b.2.members → a = b := by
  obtain ⟨-, -, -, -, -, hnodup, -⟩ := newInstructions_eq_some h
  intro a ha b hb m hma hmb
  by_contra hne
  have hsymm : Std.Symm (Function.onFun List.Disjoint fun s : Int64 × Committee => s.2.members) :=
    ⟨fun _ _ hd => List.Disjoint.symm hd⟩
  exact (List.nodup_flatMap.mp hnodup).2.forall ha hb hne hma hmb

theorem newInstructions_complete {instr : Instruction} {err : Option String}
    (h : newInstructions fs unmarshalStrict ord yamlPath = (some instr, err))
    (hdistinct : (instr.watchParams.DistributionFiles.MachineIPList.map shardOfFile).Nodup) :
    ∀ file ∈ instr.watchParams.DistributionFiles.MachineIPList, ∃ id, shardOfFile file = .ok id ∧
      instr.superCommittee.lookup id = some (fileCommittee fs instr.watchParams file) := by
  obtain ⟨-, -, -, hloads, hlookup, -⟩ := newInstructions_eq_some h
  intro file hfile
  obtain ⟨⟨id, hid⟩, -, -⟩ := hloads file hfile
  refine ⟨id, hid, ?_⟩
  rw [hlookup id]
  have hmem : file ∈ instr.watchParams.DistributionFiles.MachineIPList.filter
      (fun f => shardOfFile f = .ok id) := List.mem_filter.mpr ⟨hfile, by simp [hid]⟩
  obtain ⟨last, hlast⟩ := Option.ne_none_iff_exists'.mp
    (List.getLast?_eq_none_iff.not.mpr (List.ne_nil_of_mem hmem))
  obtain ⟨hlastmem, hlastid⟩ := List.mem_filter.mp (List.mem_of_getLast? hlast)
  have heq : last = file := List.inj_on_of_nodup_map hdistinct hlastmem hfile (by simpa [hid] using hlastid)
  rw [hlast, heq, Option.map_some]

end Result

def machineParams (files : List String) : WatchParams :=
  { sampleParams with DistributionFiles := ⟨files⟩ }

def lockedFiles : GoStd.FileSystem :=
  ⟨fun _ => .ok [], fun _ => false,
    fun file => if file = "shard0.txt" then some "open shard0.txt: permission denied" else none,
    fun _ => (["10.0.0.1"], none)⟩

def twoDigitFiles : GoStd.FileSystem :=
  ⟨fun _ => .ok [], fun _ => false, fun _ => none,
    fun file => (if file = "shard0.txt" then ["10.0.0.1"] else ["10.0.0.2"], none)⟩

theorem newInstructions_drops_machines :
    newInstructions lockedFiles (fun _ => .ok (machineParams ["shard0.txt"])) .insertion
      "watchdog.yaml" = (none, none) ∧
    newInstructions twoDigitFiles (fun _ => .ok (machineParams ["shard0.txt", "shard10.txt"])) .insertion
      "watchdog.yaml" =
      (some ⟨machineParams ["shard0.txt", "shard10.txt"], [(0, ⟨"shard10.txt", ["10.0.0.2:9500"]⟩)]⟩, none) := by
  constructor
  · decide +kernel
  · decide +kernel

end Watchdog
