import Mathlib
import Watchdog.Model.Rpc
import Watchdog.Foundations.GoMap
import Watchdog.Foundations.GoNumeric
import Watchdog.Foundations.Interleaving

namespace Watchdog

open GoMap (RangeOrder set)

def collect (decodeHeaderPair : Bytes → HeaderPair) (acc : List (String × Option Header) × Nat) (d : Reply) :
    List (String × Option Header) × Nat :=
  let ret := set acc.1 d.address none
  if d.oops = none then (set ret d.address (some (decodeHeaderPair d.rpcResult).Beacon), acc.2 + 1)
  else (ret, acc.2)

structure BeaconState where
  pending : List String
  requestsClosed : Bool
  idle : Nat
  holding : Multiset Reply
  exited : Nat
  workers : Int32
  dataClosed : Bool
  ret : List (String × Option Header)
  success : Nat
  done : Bool
  delivered : List Reply
  panic : Option String

inductive BeaconAction where
  | handOff (rpcResult rpcPayload : Bytes) (oops : Option String)
  | closeRequests
  | deliver (d : Reply)
  | exit
  | finish

def BeaconState.init (ord : RangeOrder) (poolSize : Int64) (shardMap : List (String × Int64)) : BeaconState :=
  ⟨((ord.arrange shardMap).filter (·.2 ≠ 0)).map (·.1), false, poolSize.toInt.toNat, 0, 0, poolSize.toInt32,
    false, [], 0, false, [], none⟩

section Step

variable (decodeHeaderPair : Bytes → HeaderPair)

def beaconStep (s : BeaconState) (a : BeaconAction) : Option BeaconState :=
  if s.panic.isSome then none
  else match a with
    | .handOff rpcResult rpcPayload oops =>
      match s.pending with
      | n :: ns =>
        if 0 < s.idle then
          some { s with
            pending := ns
            idle := s.idle - 1
            holding := ⟨n, LatestHeadersRPC, rpcPayload, rpcResult, oops⟩ ::ₘ s.holding }
        else none
      | [] => none
    | .closeRequests =>
      if s.pending = [] ∧ s.requestsClosed = false then some { s with requestsClosed := true } else none
    | .deliver d =>
      if d ∈ s.holding then
        if s.dataClosed then some { s with panic := some "send on closed channel" }
        else
          let (ret, success) := collect decodeHeaderPair (s.ret, s.success) d
          some { s with
            holding := s.holding.erase d
            idle := s.idle + 1
            ret := ret
            success := success
            delivered := s.delivered ++ [d] }
      else none
    | .exit =>
      if 0 < s.idle ∧ s.requestsClosed then
        let workers := s.workers - 1
        let s' := { s with idle := s.idle - 1, exited := s.exited + 1, workers }
        if workers = 0 then
          if s.dataClosed then some { s' with panic := some "close of closed channel" }
          else some { s' with dataClosed := true }
        else some s'
      else none
    | .finish => if s.dataClosed ∧ s.done = false then some { s with done := true } else none

def getBeaconHeaders (ord : RangeOrder) (poolSize : Int64) (shardMap : List (String × Int64)) :
    Interleaving.System BeaconState BeaconAction :=
  ⟨BeaconState.init ord poolSize shardMap, beaconStep decodeHeaderPair⟩

end Step

section Collect

variable (decodeHeaderPair : Bytes → HeaderPair)

def collectValue (d : Reply) : Option Header :=
  if d.oops = none then some (decodeHeaderPair d.rpcResult).Beacon else none

theorem collect_eq (acc : List (String × Option Header) × Nat) (d : Reply) :
    collect decodeHeaderPair acc d =
      (set acc.1 d.address (collectValue decodeHeaderPair d), acc.2 + if d.oops = none then 1 else 0) := by
  unfold collect collectValue
  split <;> simp_all

theorem foldl_collect (ds : List Reply) :
    ∀ acc, ds.foldl (collect decodeHeaderPair) acc =
      (ds.foldl (fun m d => set m d.address (collectValue decodeHeaderPair d)) acc.1,
        acc.2 + (ds.filter fun d => d.oops = none).length) := by
  induction ds with
  | nil => simp
  | cons d ds ih =>
    intro acc
    rw [List.foldl_cons, ih, collect_eq, List.foldl_cons]
    by_cases hd : d.oops = none
    · simp [hd]
      omega
    · simp [hd]

theorem foldl_collect_nil {ds : List Reply} (hds : (ds.map (·.address)).Nodup) :
    ds.foldl (collect decodeHeaderPair) ([], 0) =
      (ds.map fun d => (d.address, collectValue decodeHeaderPair d), (ds.filter fun d => d.oops = none).length) := by
  rw [foldl_collect, GoMap.foldl_set_of_fresh _ _ ds hds [] (by simp)]
  simp

theorem isSome_collectValue (d : Reply) : (collectValue decodeHeaderPair d).isSome ↔ d.oops = none := by
  unfold collectValue
  split <;> simp_all

theorem lookup_collected {ds : List Reply} (hds : (ds.map (·.address)).Nodup) {d : Reply} (hd : d ∈ ds) :
    (ds.map fun d => (d.address, collectValue decodeHeaderPair d)).lookup d.address =
      some (collectValue decodeHeaderPair d) := by
  refine GoMap.lookup_of_mem ?_ (List.mem_map_of_mem hd)
  rw [List.map_map]
  exact hds

theorem length_filter_collected (ds : List Reply) :
    ((ds.map fun d => (d.address, collectValue decodeHeaderPair d)).filter fun e => e.2.isSome).length =
      (ds.filter fun d => d.oops = none).length := by
  rw [List.filter_map, List.length_map]
  congr 1
  apply List.filter_congr
  intro d _
  rw [Bool.eq_iff_iff, decide_eq_true_iff]
  exact isSome_collectValue decodeHeaderPair d

end Collect

structure BeaconInv (decodeHeaderPair : Bytes → HeaderPair) (order : List String) (poolSize : Int64)
    (s : BeaconState) : Prop where
  panic_none : s.panic = none
  workers_total : s.idle + Multiset.card s.holding + s.exited = poolSize.toInt.toNat
  counter : s.workers = poolSize.toInt32 - Int32.ofNat s.exited
  closed_iff : s.dataClosed = true ↔ s.exited = poolSize.toInt.toNat
  exited_closed : 0 < s.exited → s.requestsClosed = true
  closed_pending : s.requestsClosed = true → s.pending = []
  done_closed : s.done = true → s.dataClosed = true
  accounted : (((s.delivered.map (·.address) : List String) : Multiset String) +
    s.holding.map (·.address) + (s.pending : Multiset String)) = (order : Multiset String)
  collected : (s.ret, s.success) = s.delivered.foldl (collect decodeHeaderPair) ([], 0)

section Preservation

variable {decodeHeaderPair : Bytes → HeaderPair} {order : List String} {poolSize : Int64} {s s' : BeaconState}

theorem BeaconInv.requests_open (hs : BeaconInv decodeHeaderPair order poolSize s) {n : String} {ns : List String}
    (hpend : s.pending = n :: ns) : s.requestsClosed = false ∧ s.exited = 0 := by
  have hopen : s.requestsClosed = false := by
    cases hc : s.requestsClosed with
    | false => rfl
    | true =>
      rw [hs.closed_pending hc] at hpend
      cases hpend
  refine ⟨hopen, ?_⟩
  by_contra hne
  have hc := hs.exited_closed (by omega)
  rw [hopen] at hc
  cases hc

theorem handOff_inv {rpcResult rpcPayload : Bytes} {oops : Option String}
    (hs : BeaconInv decodeHeaderPair order poolSize s)
    (h : beaconStep decodeHeaderPair s (.handOff rpcResult rpcPayload oops) = some s') :
    BeaconInv decodeHeaderPair order poolSize s' := by
  simp only [beaconStep, hs.panic_none, Option.isSome_none, Bool.false_eq_true, if_false] at h
  cases hpend : s.pending with
  | nil => simp [hpend] at h
  | cons n ns =>
    simp only [hpend] at h
    split_ifs at h with hidle
    cases h
    obtain ⟨hopen, -⟩ := hs.requests_open hpend
    have htotal := hs.workers_total
    refine ⟨rfl, ?_, hs.counter, hs.closed_iff, hs.exited_closed, ?_, hs.done_closed, ?_, hs.collected⟩
    · simp only [Multiset.card_cons]
      omega
    · intro hc
      rw [hopen] at hc
      cases hc
    · dsimp only
      rw [← hs.accounted, hpend, Multiset.map_cons, ← Multiset.cons_coe]
      simp only [Multiset.add_cons, Multiset.cons_add]

theorem closeRequests_inv (hs : BeaconInv decodeHeaderPair order poolSize s)
    (h : beaconStep decodeHeaderPair s .closeRequests = some s') : BeaconInv decodeHeaderPair order poolSize s' := by
  simp only [beaconStep, hs.panic_none, Option.isSome_none, Bool.false_eq_true, if_false] at h
  split_ifs at h with hcond
  cases h
  exact ⟨rfl, hs.workers_total, hs.counter, hs.closed_iff, fun _ => rfl, fun _ => hcond.1, hs.done_closed,
    hs.accounted, hs.collected⟩

theorem deliver_inv {d : Reply} (hs : BeaconInv decodeHeaderPair order poolSize s)
    (h : beaconStep decodeHeaderPair s (.deliver d) = some s') : BeaconInv decodeHeaderPair order poolSize s' := by
  simp only [beaconStep, hs.panic_none, Option.isSome_none, Bool.false_eq_true, if_false] at h
  have htotal := hs.workers_total
  split_ifs at h with hd hclosed
  · have hexited := hs.closed_iff.mp hclosed
    have hcard : 0 < Multiset.card s.holding := Multiset.card_pos_iff_exists_mem.mpr ⟨d, hd⟩
    omega
  · cases hc : collect decodeHeaderPair (s.ret, s.success) d with
    | mk ret success =>
      simp only [hc, Option.some.injEq] at h
      subst h
      have hcons : s.holding = d ::ₘ s.holding.erase d := (Multiset.cons_erase hd).symm
      refine ⟨rfl, ?_, hs.counter, hs.closed_iff, hs.exited_closed, hs.closed_pending, hs.done_closed, ?_, ?_⟩
      · have hcard := congrArg Multiset.card hcons
        simp only [Multiset.card_cons] at hcard
        dsimp only
        omega
      · dsimp only
        rw [← hs.accounted, List.map_append, ← Multiset.coe_add, hcons, Multiset.erase_cons_head,
          Multiset.map_cons]
        simp only [List.map_cons, List.map_nil, Multiset.coe_singleton]
        rw [← Multiset.singleton_add]
        abel
      · rw [List.foldl_append, ← hs.collected, List.foldl_cons, List.foldl_nil, hc]

theorem exit_inv (hbound : poolSize.toInt ≤ 2 ^ 32) (hs : BeaconInv decodeHeaderPair order poolSize s)
    (h : beaconStep decodeHeaderPair s .exit = some s') : BeaconInv decodeHeaderPair order poolSize s' := by
  simp only [beaconStep, hs.panic_none, Option.isSome_none, Bool.false_eq_true, if_false] at h
  have htotal := hs.workers_total
  split_ifs at h with hcond hzero hclosed
  all_goals obtain ⟨hidle, hreq⟩ := hcond
  all_goals
    have hcount : s.workers - 1 = poolSize.toInt32 - Int32.ofNat (s.exited + 1) := by
      rw [hs.counter, GoNumeric.sub_ofNat_sub_one]
    have hlast := GoNumeric.toInt32_sub_ofNat_eq_zero_iff poolSize (s.exited + 1) (by omega) (by omega) hbound
  · have hexited := hs.closed_iff.mp hclosed
    omega
  · cases h
    have hall := hlast.mp (hcount ▸ hzero)
    refine ⟨rfl, by dsimp only; omega, hcount, ⟨fun _ => hall, fun _ => rfl⟩, fun _ => hreq,
      hs.closed_pending, fun _ => rfl, hs.accounted, hs.collected⟩
  · cases h
    have hnotall : s.exited + 1 ≠ poolSize.toInt.toNat := fun he => hzero (hcount ▸ hlast.mpr he)
    refine ⟨rfl, by dsimp only; omega, hcount, ?_, fun _ => hreq, hs.closed_pending, hs.done_closed,
      hs.accounted, hs.collected⟩
    dsimp only
    rw [hs.closed_iff]
    omega

theorem finish_inv (hs : BeaconInv decodeHeaderPair order poolSize s)
    (h : beaconStep decodeHeaderPair s .finish = some s') : BeaconInv decodeHeaderPair order poolSize s' := by
  simp only [beaconStep, hs.panic_none, Option.isSome_none, Bool.false_eq_true, if_false] at h
  split_ifs at h with hcond
  cases h
  exact ⟨rfl, hs.workers_total, hs.counter, hs.closed_iff, hs.exited_closed, hs.closed_pending,
    fun _ => hcond.1, hs.accounted, hs.collected⟩

end Preservation

def BeaconState.measure (s : BeaconState) : Nat :=
  3 * s.pending.length + 2 * Multiset.card s.holding + s.idle + (if s.requestsClosed then 0 else 1) +
    (if s.dataClosed then 0 else 1) + (if s.done then 0 else 1) + (if s.panic.isSome then 0 else 1)

theorem measure_beaconStep {decodeHeaderPair : Bytes → HeaderPair} {s s' : BeaconState} {a : BeaconAction}
    (h : beaconStep decodeHeaderPair s a = some s') : s'.measure < s.measure := by
  cases hp : s.panic with
  | some e => simp [beaconStep, hp] at h
  | none =>
  simp only [beaconStep, hp, Option.isSome_none, Bool.false_eq_true, if_false] at h
  cases a with
  | handOff rpcResult rpcPayload oops =>
    cases hpend : s.pending with
    | nil => simp [hpend] at h
    | cons n ns =>
      simp only [hpend] at h
      split_ifs at h with hidle
      cases h
      simp only [BeaconState.measure, hpend, hp, List.length_cons, Multiset.card_cons]
      omega
  | closeRequests =>
    dsimp only at h
    split_ifs at h with hcond
    cases h
    simp [BeaconState.measure, hcond.2, hp]
  | deliver d =>
    dsimp only at h
    split_ifs at h with hd hclosed
    · cases h
      simp [BeaconState.measure, hp]
    · cases hc : collect decodeHeaderPair (s.ret, s.success) d with
      | mk ret success =>
        simp only [hc, Option.some.injEq] at h
        subst h
        have hcard := Multiset.card_erase_add_one hd
        simp only [BeaconState.measure, hp, Option.isSome_none]
        omega
  | exit =>
    dsimp only at h
    split_ifs at h with hcond hzero hclosed
    all_goals
      obtain ⟨hidle, hreq⟩ := hcond
      cases h
    · simp [BeaconState.measure, hp, hclosed, hreq]
    · simp [BeaconState.measure, hp, hclosed, hreq]
    · simp [BeaconState.measure, hp, hreq]
      omega
  | finish =>
    dsimp only at h
    split_ifs at h with hcond
    cases h
    simp [BeaconState.measure, hcond.2, hp]

section Progress

variable {decodeHeaderPair : Bytes → HeaderPair} {order : List String} {poolSize : Int64} {s : BeaconState}

theorem beaconStep_isSome {a : BeaconAction}
    (h : (beaconStep decodeHeaderPair s a).isSome) : ∃ s', beaconStep decodeHeaderPair s a = some s' :=
  Option.isSome_iff_exists.mp h

theorem exists_beaconStep (hpos : 1 ≤ poolSize.toInt) (hs : BeaconInv decodeHeaderPair order poolSize s)
    (hdone : ¬ s.done = true) : ∃ a s', beaconStep decodeHeaderPair s a = some s' := by
  have hp := hs.panic_none
  have htotal := hs.workers_total
  have hopen_data : 0 < Multiset.card s.holding ∨ s.exited < poolSize.toInt.toNat → s.dataClosed = false := by
    intro hlive
    cases hc : s.dataClosed with
    | false => rfl
    | true =>
      have hall := hs.closed_iff.mp hc
      omega
  cases hpend : s.pending with
  | cons n ns =>
    obtain ⟨-, hex⟩ := hs.requests_open hpend
    by_cases hidle : 0 < s.idle
    · exact ⟨.handOff [] [] none, beaconStep_isSome (by simp [beaconStep, hp, hpend, hidle])⟩
    · obtain ⟨d, hd⟩ := Multiset.card_pos_iff_exists_mem.mp (show 0 < Multiset.card s.holding by omega)
      have hclosed := hopen_data (.inl (Multiset.card_pos_iff_exists_mem.mpr ⟨d, hd⟩))
      exact ⟨.deliver d, beaconStep_isSome (by simp [beaconStep, hp, hd, hclosed])⟩
  | nil =>
    cases hreq : s.requestsClosed with
    | false => exact ⟨.closeRequests, beaconStep_isSome (by simp [beaconStep, hp, hpend, hreq])⟩
    | true =>
      by_cases hidle : 0 < s.idle
      · refine ⟨.exit, beaconStep_isSome ?_⟩
        simp only [beaconStep, hp, Option.isSome_none, Bool.false_eq_true, if_false, hidle, hreq, and_self,
          if_true]
        split_ifs <;> rfl
      · by_cases hhold : 0 < Multiset.card s.holding
        · obtain ⟨d, hd⟩ := Multiset.card_pos_iff_exists_mem.mp hhold
          have hclosed := hopen_data (.inl hhold)
          exact ⟨.deliver d, beaconStep_isSome (by simp [beaconStep, hp, hd, hclosed])⟩
        · have hclosed := hs.closed_iff.mpr (by omega)
          exact ⟨.finish, beaconStep_isSome (by simp [beaconStep, hp, hclosed, hdone])⟩

end Progress

section Runs

variable (decodeHeaderPair : Bytes → HeaderPair) (ord : RangeOrder) (poolSize : Int64)
  (shardMap : List (String × Int64))

theorem beaconInv_init (hpos : 1 ≤ poolSize.toInt) :
    BeaconInv decodeHeaderPair (BeaconState.init ord poolSize shardMap).pending poolSize
      (BeaconState.init ord poolSize shardMap) := by
  refine ⟨rfl, by simp [BeaconState.init], ?_, ?_, fun h => by simp [BeaconState.init] at h,
    fun h => by simp [BeaconState.init] at h, fun h => by simp [BeaconState.init] at h, by simp [BeaconState.init],
    rfl⟩
  · simp [BeaconState.init]
  · simp only [BeaconState.init, Bool.false_eq_true, false_iff]
    omega

theorem beaconInv_inductive (hbound : poolSize.toInt ≤ 2 ^ 32) :
    (getBeaconHeaders decodeHeaderPair ord poolSize shardMap).Inductive
      (BeaconInv decodeHeaderPair (BeaconState.init ord poolSize shardMap).pending poolSize) := by
  intro s a s' hs h
  cases a with
  | handOff rpcResult rpcPayload oops => exact handOff_inv hs h
  | closeRequests => exact closeRequests_inv hs h
  | deliver d => exact deliver_inv hs h
  | exit => exact exit_inv hbound hs h
  | finish => exact finish_inv hs h

theorem beaconInv_of_reachable (hpos : 1 ≤ poolSize.toInt) (hbound : poolSize.toInt ≤ 2 ^ 32) {s : BeaconState}
    (hs : (getBeaconHeaders decodeHeaderPair ord poolSize shardMap).Reachable s) :
    BeaconInv decodeHeaderPair (BeaconState.init ord poolSize shardMap).pending poolSize s :=
  (beaconInv_inductive decodeHeaderPair ord poolSize shardMap hbound).reachable
    (beaconInv_init decodeHeaderPair ord poolSize shardMap hpos) hs

theorem nodup_beaconOrder (hkeys : (shardMap.map Prod.fst).Nodup) :
    (BeaconState.init ord poolSize shardMap).pending.Nodup := by
  have harr : ((ord.arrange shardMap).map Prod.fst).Nodup := ((ord.perm shardMap).map Prod.fst).nodup_iff.mpr hkeys
  exact harr.sublist ((List.filter_sublist).map Prod.fst)

theorem mem_beaconOrder (n : String) :
    n ∈ (BeaconState.init ord poolSize shardMap).pending ↔ ∃ sh, (n, sh) ∈ shardMap ∧ sh ≠ 0 := by
  simp [BeaconState.init]

variable {decodeHeaderPair ord poolSize shardMap}

theorem beacon_run_length {trace : List BeaconAction} {s : BeaconState}
    (h : (getBeaconHeaders decodeHeaderPair ord poolSize shardMap).run (BeaconState.init ord poolSize shardMap) trace =
      some s) :
    trace.length ≤ (BeaconState.init ord poolSize shardMap).measure := by
  have hlen := Interleaving.System.run_length_le BeaconState.measure (fun _ _ _ hstep => measure_beaconStep hstep) h
  omega

theorem beacon_stuck_done (hpos : 1 ≤ poolSize.toInt) (hbound : poolSize.toInt ≤ 2 ^ 32) {s : BeaconState}
    (hs : (getBeaconHeaders decodeHeaderPair ord poolSize shardMap).Reachable s)
    (hstuck : (getBeaconHeaders decodeHeaderPair ord poolSize shardMap).Stuck s) : s.done = true :=
  Interleaving.System.Reachable.final_of_stuck (beaconInv_inductive decodeHeaderPair ord poolSize shardMap hbound)
    (beaconInv_init decodeHeaderPair ord poolSize shardMap hpos) (fun _ hI hnd => exists_beaconStep hpos hI hnd)
    hs hstuck

theorem beacon_done_result (hpos : 1 ≤ poolSize.toInt) (hbound : poolSize.toInt ≤ 2 ^ 32)
    (hkeys : (shardMap.map Prod.fst).Nodup) {s : BeaconState}
    (hs : (getBeaconHeaders decodeHeaderPair ord poolSize shardMap).Reachable s) (hdone : s.done = true) :
    (s.delivered.map (·.address)).Perm (BeaconState.init ord poolSize shardMap).pending ∧
      s.ret = s.delivered.map (fun d => (d.address, collectValue decodeHeaderPair d)) ∧
      s.success = (s.delivered.filter fun d => d.oops = none).length := by
  have hI := beaconInv_of_reachable decodeHeaderPair ord poolSize shardMap hpos hbound hs
  have htotal := hI.workers_total
  have hall := hI.closed_iff.mp (hI.done_closed hdone)
  have hholding : s.holding = 0 := Multiset.card_eq_zero.mp (by omega)
  have hpend : s.pending = [] := hI.closed_pending (hI.exited_closed (by omega))
  have hperm : (s.delivered.map (·.address)).Perm (BeaconState.init ord poolSize shardMap).pending := by
    have hacc := hI.accounted
    rw [hholding, hpend] at hacc
    exact Multiset.coe_eq_coe.mp (by simpa using hacc)
  have hret := hI.collected.trans
    (foldl_collect_nil decodeHeaderPair (hperm.nodup_iff.mpr (nodup_beaconOrder ord poolSize shardMap hkeys)))
  simp only [Prod.mk.injEq] at hret
  exact ⟨hperm, hret.1, hret.2⟩

end Runs

theorem getBeaconHeaders_sound (decodeHeaderPair : Bytes → HeaderPair) (ord : RangeOrder) (poolSize : Int64)
    (shardMap : List (String × Int64)) (hpos : 1 ≤ poolSize.toInt) (hbound : poolSize.toInt ≤ 2 ^ 32)
    (hkeys : (shardMap.map Prod.fst).Nodup) :
    (∀ s, (getBeaconHeaders decodeHeaderPair ord poolSize shardMap).Reachable s →
      s.panic = none ∧ (s.dataClosed = true → s.exited = poolSize.toInt.toNat ∧ s.holding = 0)) ∧
    (∀ trace s, (getBeaconHeaders decodeHeaderPair ord poolSize shardMap).run
      (BeaconState.init ord poolSize shardMap) trace = some s →
        trace.length ≤ (BeaconState.init ord poolSize shardMap).measure) ∧
    (∀ s, (getBeaconHeaders decodeHeaderPair ord poolSize shardMap).Reachable s →
      (getBeaconHeaders decodeHeaderPair ord poolSize shardMap).Stuck s → s.done = true ∧ s.dataClosed = true) ∧
    (∀ s, (getBeaconHeaders decodeHeaderPair ord poolSize shardMap).Reachable s → s.done = true →
      s.ret.map Prod.fst = s.delivered.map (·.address) ∧ (s.ret.map Prod.fst).Nodup ∧
      (∀ n, n ∈ s.ret.map Prod.fst ↔ ∃ sh, (n, sh) ∈ shardMap ∧ sh ≠ 0) ∧
      (∀ d ∈ s.delivered, ∃ v, s.ret.lookup d.address = some v ∧ (v.isSome ↔ d.oops = none)) ∧
      s.success = (s.ret.filter fun e => e.2.isSome).length) := by
  refine ⟨fun s hs => ?_, fun trace s h => beacon_run_length h, fun s hs hstuck => ?_, fun s hs hdone => ?_⟩
  · have hI := beaconInv_of_reachable decodeHeaderPair ord poolSize shardMap hpos hbound hs
    refine ⟨hI.panic_none, fun hclosed => ⟨hI.closed_iff.mp hclosed, ?_⟩⟩
    have htotal := hI.workers_total
    have hall := hI.closed_iff.mp hclosed
    exact Multiset.card_eq_zero.mp (by omega)
  · have hdone := beacon_stuck_done hpos hbound hs hstuck
    exact ⟨hdone, (beaconInv_of_reachable decodeHeaderPair ord poolSize shardMap hpos hbound hs).done_closed hdone⟩
  · obtain ⟨hperm, hret, hsuccess⟩ := beacon_done_result hpos hbound hkeys hs hdone
    have hnd := hperm.nodup_iff.mpr (nodup_beaconOrder ord poolSize shardMap hkeys)
    have hkeys' : s.ret.map Prod.fst = s.delivered.map (·.address) := by
      rw [hret, List.map_map]
      rfl
    refine ⟨hkeys', hkeys' ▸ hnd, fun n => ?_, fun d hd => ⟨_, hret ▸ lookup_collected decodeHeaderPair hnd hd,
      isSome_collectValue decodeHeaderPair d⟩, ?_⟩
    · rw [hkeys', hperm.mem_iff, mem_beaconOrder]
    · rw [hsuccess, hret, length_filter_collected]

def zeroHeaderPair : HeaderPair := ⟨⟨"", 0, 0, 0, 0⟩, ⟨"", 0, 0, 0, 0⟩⟩

theorem getBeaconHeaders_sound_two_nodes :
    1 ≤ (2 : Int64).toInt ∧ (2 : Int64).toInt ≤ 2 ^ 32 ∧
      ([("10.0.0.1:9500", 1), ("10.0.0.2:9500", 0)].map Prod.fst : List String).Nodup ∧
    ((∀ s, (getBeaconHeaders (fun _ => zeroHeaderPair) .insertion 2
      [("10.0.0.1:9500", 1), ("10.0.0.2:9500", 0)]).Reachable s →
        s.panic = none ∧ (s.dataClosed = true → s.exited = (2 : Int64).toInt.toNat ∧ s.holding = 0)) ∧
    (∀ trace s, (getBeaconHeaders (fun _ => zeroHeaderPair) .insertion 2
      [("10.0.0.1:9500", 1), ("10.0.0.2:9500", 0)]).run
      (BeaconState.init .insertion 2 [("10.0.0.1:9500", 1), ("10.0.0.2:9500", 0)]) trace = some s →
        trace.length ≤ (BeaconState.init .insertion 2 [("10.0.0.1:9500", 1), ("10.0.0.2:9500", 0)]).measure) ∧
    (∀ s, (getBeaconHeaders (fun _ => zeroHeaderPair) .insertion 2
      [("10.0.0.1:9500", 1), ("10.0.0.2:9500", 0)]).Reachable s →
      (getBeaconHeaders (fun _ => zeroHeaderPair) .insertion 2
        [("10.0.0.1:9500", 1), ("10.0.0.2:9500", 0)]).Stuck s → s.done = true ∧ s.dataClosed = true) ∧
    (∀ s, (getBeaconHeaders (fun _ => zeroHeaderPair) .insertion 2
      [("10.0.0.1:9500", 1), ("10.0.0.2:9500", 0)]).Reachable s → s.done = true →
      s.ret.map Prod.fst = s.delivered.map (·.address) ∧ (s.ret.map Prod.fst).Nodup ∧
      (∀ n, n ∈ s.ret.map Prod.fst ↔ ∃ sh, (n, sh) ∈ [("10.0.0.1:9500", (1 : Int64)), ("10.0.0.2:9500", 0)] ∧ sh ≠ 0) ∧
      (∀ d ∈ s.delivered, ∃ v, s.ret.lookup d.address = some v ∧ (v.isSome ↔ d.oops = none)) ∧
      s.success = (s.ret.filter fun e => e.2.isSome).length)) :=
  ⟨by decide, by decide, by decide, getBeaconHeaders_sound (fun _ => zeroHeaderPair) .insertion 2
    [("10.0.0.1:9500", 1), ("10.0.0.2:9500", 0)] (by decide) (by decide) (by decide)⟩

theorem getBeaconHeaders_send_on_closed :
    ((getBeaconHeaders (fun _ => zeroHeaderPair) .insertion 4294967297 [("10.0.0.1:9500", 1)]).run
      (BeaconState.init .insertion 4294967297 [("10.0.0.1:9500", 1)])
      [.handOff [] [] none, .closeRequests, .exit, .deliver ⟨"10.0.0.1:9500", LatestHeadersRPC, [], [], none⟩]).map
      (·.panic) = some (some "send on closed channel") := by
  decide +kernel

end Watchdog
