import Mathlib
import Watchdog.Model.Rpc
import Watchdog.Foundations.GoSync
import Watchdog.Foundations.Interleaving

namespace Watchdog

open GoSync (Chan)

inductive ManagerPhase where
  | idle
  | sending (pending : List String)
  | adding (pending : List String)
  | waited
  | draining
  deriving DecidableEq, Repr

structure ManagerState where
  phase : ManagerPhase
  group : Int
  channel : Chan Reply
  received : List Reply

structure PoolState where
  jobs : Chan Work
  managers : String → ManagerState
  idle : Nat
  busy : Multiset Work
  replied : Multiset String
  panic : Option String

inductive PoolAction where
  | tick (rpc : String) (order : List String)
  | send (rpc : String)
  | add (rpc : String)
  | wait (rpc : String)
  | close (rpc : String)
  | receive (rpc : String)
  | take
  | reply (j : Work) (rpcResult rpcPayload : Bytes) (oops : Option String)
  | done (rpc : String)

def PoolState.setManager (s : PoolState) (rpc : String) (m : ManagerState) : PoolState :=
  { s with managers := Function.update s.managers rpc m }

def PoolState.init (shardMap : List String) (poolSize : Nat) : PoolState :=
  ⟨Chan.make shardMap.length, fun _ => ⟨.idle, 0, Chan.make shardMap.length, []⟩, poolSize, 0, 0, none⟩

section Step

variable (shardMap rpcs : List String) (requestBody : String → Bytes)

def managerStep (s : PoolState) : PoolAction → Option PoolState
  | .tick rpc order =>
    if rpc ∈ rpcs ∧ (s.managers rpc).phase = .idle ∧ order.Perm shardMap then
      some (s.setManager rpc { s.managers rpc with phase := .sending order, received := [] })
    else none
  | .send rpc =>
    match (s.managers rpc).phase with
    | .sending (n :: ns) =>
      match s.jobs.send ⟨n, rpc, requestBody rpc⟩ with
      | some (.ok jobs) => some { s.setManager rpc { s.managers rpc with phase := .adding ns } with jobs }
      | _ => none
    | _ => none
  | .add rpc =>
    match (s.managers rpc).phase with
    | .adding ns =>
      match GoSync.addCounter (s.managers rpc).group 1 with
      | .ok g => some (s.setManager rpc { s.managers rpc with phase := .sending ns, group := g })
      | .error e => some { s with panic := some e }
    | _ => none
  | .wait rpc =>
    if (s.managers rpc).phase = .sending [] ∧ (s.managers rpc).group = 0 then
      some (s.setManager rpc { s.managers rpc with phase := .waited })
    else none
  | .close rpc =>
    if (s.managers rpc).phase = .waited then
      match (s.managers rpc).channel.close with
      | .ok c => some (s.setManager rpc { s.managers rpc with phase := .draining, channel := c })
      | .error e => some { s with panic := some e }
    else none
  | .receive rpc =>
    if (s.managers rpc).phase = .draining then
      match (s.managers rpc).channel.recv with
      | some (some d, c) =>
        some (s.setManager rpc { s.managers rpc with channel := c, received := (s.managers rpc).received ++ [d] })
      | some (none, _) =>
        some (s.setManager rpc { s.managers rpc with phase := .idle, channel := Chan.make shardMap.length })
      | none => none
    else none
  | _ => none

def workerStep (s : PoolState) : PoolAction → Option PoolState
  | .take =>
    match s.jobs.recv with
    | some (some j, jobs) => if 0 < s.idle then some { s with jobs, idle := s.idle - 1, busy := j ::ₘ s.busy } else none
    | _ => none
  | .reply j rpcResult rpcPayload oops =>
    if j ∈ s.busy then
      match (s.managers j.rpc).channel.send ⟨j.address, j.rpc, rpcPayload, rpcResult, oops⟩ with
      | some (.ok c) =>
        some { s.setManager j.rpc { s.managers j.rpc with channel := c } with
          busy := s.busy.erase j, replied := j.rpc ::ₘ s.replied }
      | some (.error e) => some { s with panic := some e }
      | none => none
    else none
  | .done rpc =>
    if rpc ∈ s.replied then
      match GoSync.addCounter (s.managers rpc).group (-1) with
      | .ok g => some { s.setManager rpc { s.managers rpc with group := g } with
          replied := s.replied.erase rpc, idle := s.idle + 1 }
      | .error e => some { s with panic := some e }
    else none
  | _ => none

def poolStep (s : PoolState) (a : PoolAction) : Option PoolState :=
  if s.panic.isSome then none
  else match a with
    | .take | .reply .. | .done _ => workerStep s a
    | _ => managerStep shardMap rpcs requestBody s a

def pool (poolSize : Nat) : Interleaving.System PoolState PoolAction :=
  ⟨PoolState.init shardMap poolSize, poolStep shardMap rpcs requestBody⟩

end Step

namespace PoolState

def outstanding (s : PoolState) (rpc : String) : Nat :=
  (s.jobs.buffer.filter (·.rpc = rpc)).length + (s.busy.filter (·.rpc = rpc)).card + s.replied.count rpc

def inflight (s : PoolState) (rpc : String) : Multiset String :=
  (((s.jobs.buffer.filter (·.rpc = rpc)).map (·.address) : List String) : Multiset String) +
    (s.busy.filter (·.rpc = rpc)).map (·.address)

@[simp] theorem setManager_managers (s : PoolState) (rpc : String) (m : ManagerState) :
    (s.setManager rpc m).managers = Function.update s.managers rpc m := rfl

@[simp] theorem outstanding_setManager (s : PoolState) (rpc : String) (m : ManagerState) (r : String) :
    (s.setManager rpc m).outstanding r = s.outstanding r := rfl

@[simp] theorem inflight_setManager (s : PoolState) (rpc : String) (m : ManagerState) (r : String) :
    (s.setManager rpc m).inflight r = s.inflight r := rfl

theorem inflight_eq_zero {s : PoolState} {rpc : String} (h : s.outstanding rpc = 0) : s.inflight rpc = 0 := by
  unfold outstanding at h
  have hjobs : s.jobs.buffer.filter (·.rpc = rpc) = [] := List.eq_nil_of_length_eq_zero (by omega)
  have hbusy : s.busy.filter (·.rpc = rpc) = 0 := Multiset.card_eq_zero.mp (by omega)
  simp [inflight, hjobs, hbusy]

theorem outstanding_pos_of_busy {s : PoolState} {j : Work} (h : j ∈ s.busy) : 0 < s.outstanding j.rpc := by
  have hmem : j ∈ s.busy.filter (·.rpc = j.rpc) := Multiset.mem_filter.mpr ⟨h, rfl⟩
  have hcard := Multiset.card_pos_iff_exists_mem.mpr ⟨j, hmem⟩
  unfold outstanding
  omega

theorem outstanding_pos_of_replied {s : PoolState} {rpc : String} (h : rpc ∈ s.replied) :
    0 < s.outstanding rpc := by
  have hcount := Multiset.count_pos.mpr h
  unfold outstanding
  omega

theorem outstanding_push (s : PoolState) (m : String → ManagerState) (c : Chan Work) (w : Work)
    (hc : c.buffer = s.jobs.buffer ++ [w]) (r : String) :
    ({ s with managers := m, jobs := c } : PoolState).outstanding r = s.outstanding r + if w.rpc = r then 1 else 0 := by
  unfold outstanding
  by_cases hw : w.rpc = r
  · simp [hc, hw]
    omega
  · simp [hc, hw]

theorem inflight_push (s : PoolState) (m : String → ManagerState) (c : Chan Work) (w : Work)
    (hc : c.buffer = s.jobs.buffer ++ [w]) (r : String) :
    ({ s with managers := m, jobs := c } : PoolState).inflight r =
      s.inflight r + if w.rpc = r then {w.address} else 0 := by
  unfold inflight
  by_cases hw : w.rpc = r
  · have hw' : decide (w.rpc = r) = true := decide_eq_true hw
    simp only [hc, List.filter_append, List.filter_singleton, hw', cond_true, List.map_append,
      List.map_singleton, ← Multiset.coe_add, if_pos hw, Multiset.coe_singleton]
    abel
  · simp [hc, hw]

theorem outstanding_take (s : PoolState) (c : Chan Work) (j : Work) (k : Nat)
    (hc : s.jobs.buffer = j :: c.buffer) (r : String) :
    ({ s with jobs := c, idle := k, busy := j ::ₘ s.busy } : PoolState).outstanding r = s.outstanding r := by
  unfold outstanding
  by_cases hj : j.rpc = r
  · simp [hc, hj]
    omega
  · simp [hc, hj]

theorem inflight_take (s : PoolState) (c : Chan Work) (j : Work) (k : Nat)
    (hc : s.jobs.buffer = j :: c.buffer) (r : String) :
    ({ s with jobs := c, idle := k, busy := j ::ₘ s.busy } : PoolState).inflight r = s.inflight r := by
  unfold inflight
  simp only [hc, List.filter_cons, Multiset.filter_cons]
  by_cases hj : j.rpc = r
  · simp only [hj, decide_true, if_true, List.map_cons, ← Multiset.cons_coe]
    rw [Multiset.map_add, Multiset.map_singleton, Multiset.singleton_add, Multiset.add_cons, Multiset.cons_add]
  · simp [hj]

theorem outstanding_reply (s : PoolState) (m : String → ManagerState) (j : Work) (hj : j ∈ s.busy)
    (r : String) :
    ({ s with managers := m, busy := s.busy.erase j, replied := j.rpc ::ₘ s.replied } : PoolState).outstanding r =
      s.outstanding r := by
  unfold outstanding
  obtain ⟨rest, hrest⟩ : ∃ rest, s.busy = j ::ₘ rest := ⟨s.busy.erase j, (Multiset.cons_erase hj).symm⟩
  simp only [hrest, Multiset.erase_cons_head, Multiset.filter_cons, Multiset.count_cons]
  by_cases hr : j.rpc = r
  · simp [hr]
    omega
  · simp [hr, Ne.symm hr]

theorem inflight_reply (s : PoolState) (m : String → ManagerState) (j : Work) (hj : j ∈ s.busy)
    (r : String) :
    ({ s with managers := m, busy := s.busy.erase j, replied := j.rpc ::ₘ s.replied } : PoolState).inflight r +
      (if j.rpc = r then {j.address} else 0) = s.inflight r := by
  unfold inflight
  obtain ⟨rest, hrest⟩ : ∃ rest, s.busy = j ::ₘ rest := ⟨s.busy.erase j, (Multiset.cons_erase hj).symm⟩
  simp only [hrest, Multiset.erase_cons_head, Multiset.filter_cons]
  by_cases hr : j.rpc = r
  · simp only [hr, if_true]
    rw [add_comm, Multiset.singleton_add, Multiset.map_add, Multiset.map_singleton, Multiset.singleton_add,
      Multiset.add_cons]
  · simp [hr]

theorem outstanding_done (s : PoolState) (m : String → ManagerState) (rpc : String) (k : Nat)
    (hrpc : rpc ∈ s.replied) (r : String) :
    ({ s with managers := m, replied := s.replied.erase rpc, idle := k } : PoolState).outstanding r +
      (if rpc = r then 1 else 0) = s.outstanding r := by
  unfold outstanding
  have hcount := Multiset.count_pos.mpr hrpc
  by_cases hr : rpc = r
  · subst hr
    simp [Multiset.count_erase_self]
    omega
  · simp [Multiset.count_erase_of_ne (Ne.symm hr), hr]

theorem inflight_done (s : PoolState) (m : String → ManagerState) (rpc : String) (k : Nat) (r : String) :
    ({ s with managers := m, replied := s.replied.erase rpc, idle := k } : PoolState).inflight r =
      s.inflight r := rfl

end PoolState

def ManagerPhase.unadded : ManagerPhase → Int
  | .adding _ => 1
  | _ => 0

def Accounted (shardMap : List String) (m : ManagerState) (inflight : Multiset String)
    (pending : List String) : Prop :=
  m.channel.closed = false ∧
    (((m.channel.buffer.map (·.address) : List String) : Multiset String) + inflight +
      (pending : Multiset String)) = (shardMap : Multiset String)

def PhaseInv (shardMap : List String) (m : ManagerState) (outstanding : Nat) (inflight : Multiset String) :
    ManagerPhase → Prop
  | .idle => outstanding = 0 ∧ m.channel.buffer = [] ∧ m.channel.closed = false
  | .sending ns => Accounted shardMap m inflight ns
  | .adding ns => Accounted shardMap m inflight ns
  | .waited => outstanding = 0 ∧ Accounted shardMap m inflight []
  | .draining => outstanding = 0 ∧ m.channel.closed = true

structure ManagerInv (shardMap : List String) (rpc : String) (m : ManagerState) (outstanding : Nat)
    (inflight : Multiset String) : Prop where
  group_eq : m.group + m.phase.unadded = outstanding
  cap_eq : m.channel.cap = shardMap.length
  replies_rpc : ∀ d ∈ m.channel.buffer, d.rpc = rpc
  phase_inv : PhaseInv shardMap m outstanding inflight m.phase

structure Healthy (shardMap : List String) (s : PoolState) : Prop where
  jobs_cap : s.jobs.cap = shardMap.length
  jobs_open : s.jobs.closed = false
  round : ∀ rpc, ManagerInv shardMap rpc (s.managers rpc) (s.outstanding rpc) (s.inflight rpc)

def PoolInv (shardMap : List String) (s : PoolState) : Prop :=
  match s.panic with
  | none => Healthy shardMap s
  | some e => e = "sync: negative WaitGroup counter"

theorem poolInv_of_healthy {shardMap : List String} {s : PoolState} (hp : s.panic = none)
    (h : Healthy shardMap s) : PoolInv shardMap s := by
  unfold PoolInv
  rw [hp]
  exact h

theorem Healthy.setManager {shardMap : List String} {s : PoolState} {rpc : String} {m : ManagerState}
    (hs : Healthy shardMap s) (hm : ManagerInv shardMap rpc m (s.outstanding rpc) (s.inflight rpc)) :
    Healthy shardMap (s.setManager rpc m) := by
  refine ⟨hs.jobs_cap, hs.jobs_open, fun r => ?_⟩
  by_cases hr : r = rpc
  · subst hr
    simpa using hm
  · simpa [hr] using hs.round r

theorem ManagerInv.accounted {shardMap : List String} {rpc : String} {m : ManagerState} {out : Nat}
    {inflight : Multiset String} (hm : ManagerInv shardMap rpc m out inflight) (hpos : 0 < out) :
    ∃ ns, Accounted shardMap m inflight ns ∧ (m.phase = .sending ns ∨ m.phase = .adding ns) := by
  have hp := hm.phase_inv
  cases hphase : m.phase with
  | idle =>
    rw [hphase] at hp
    obtain ⟨hout, -⟩ := hp
    omega
  | sending ns =>
    rw [hphase] at hp
    exact ⟨ns, hp, .inl rfl⟩
  | adding ns =>
    rw [hphase] at hp
    exact ⟨ns, hp, .inr rfl⟩
  | waited =>
    rw [hphase] at hp
    obtain ⟨hout, -⟩ := hp
    omega
  | draining =>
    rw [hphase] at hp
    obtain ⟨hout, -⟩ := hp
    omega

theorem Accounted.reply {shardMap : List String} {m : ManagerState} {inflight inflight' : Multiset String}
    {ns : List String} {x : Reply} (hacc : Accounted shardMap m inflight ns)
    (hi : inflight' + {x.address} = inflight) :
    Accounted shardMap { m with channel := { m.channel with buffer := m.channel.buffer ++ [x] } } inflight' ns := by
  obtain ⟨hopen, hsum⟩ := hacc
  refine ⟨hopen, ?_⟩
  rw [← hsum, ← hi, List.map_append, ← Multiset.coe_add]
  simp only [List.map_cons, List.map_nil, Multiset.coe_singleton]
  abel

theorem ManagerPhase.unadded_eq_one_iff (phase : ManagerPhase) : phase.unadded = 1 ↔ ∃ ns, phase = .adding ns := by
  cases phase <;> simp [ManagerPhase.unadded]

theorem ManagerPhase.unadded_le_one (phase : ManagerPhase) : 0 ≤ phase.unadded ∧ phase.unadded ≤ 1 := by
  cases phase <;> simp [ManagerPhase.unadded]

section Preservation

variable {shardMap rpcs : List String} {requestBody : String → Bytes} {s s' : PoolState}

theorem tick_poolInv {rpc : String} {order : List String} (hs : Healthy shardMap s) (hp : s.panic = none)
    (h : managerStep shardMap rpcs requestBody s (.tick rpc order) = some s') : PoolInv shardMap s' := by
  simp only [managerStep] at h
  split_ifs at h with hcond
  obtain ⟨-, hidle, hperm⟩ := hcond
  cases h
  obtain ⟨hg, hc, hrpc, hp⟩ := hs.round rpc
  rw [hidle] at hg hp
  obtain ⟨hout, hbuf, hopen⟩ := hp
  refine poolInv_of_healthy hp (hs.setManager ⟨hg, hc, hrpc, hopen, ?_⟩)
  simp [hbuf, PoolState.inflight_eq_zero hout, Multiset.coe_eq_coe.mpr hperm]

theorem send_poolInv {rpc : String} (hs : Healthy shardMap s) (hp : s.panic = none)
    (h : managerStep shardMap rpcs requestBody s (.send rpc) = some s') : PoolInv shardMap s' := by
  simp only [managerStep] at h
  cases hphase : (s.managers rpc).phase with
  | sending pending =>
    cases pending with
    | nil => simp [hphase] at h
    | cons n ns =>
      simp only [hphase] at h
      cases hsend : s.jobs.send ⟨n, rpc, requestBody rpc⟩ with
      | none => simp [hsend] at h
      | some res =>
        cases res with
        | error e => simp [hsend] at h
        | ok jobs =>
          simp only [hsend, Option.some.injEq] at h
          subst h
          obtain ⟨-, -, hjobs⟩ := Chan.send_eq_ok.mp hsend
          have hbuf : jobs.buffer = s.jobs.buffer ++ [⟨n, rpc, requestBody rpc⟩] := by rw [hjobs]
          refine poolInv_of_healthy hp ⟨by rw [hjobs]; exact hs.jobs_cap, by rw [hjobs]; exact hs.jobs_open,
            fun r => ?_⟩
          have ho := PoolState.outstanding_push s (Function.update s.managers rpc
            { s.managers rpc with phase := .adding ns }) jobs _ hbuf r
          have hi := PoolState.inflight_push s (Function.update s.managers rpc
            { s.managers rpc with phase := .adding ns }) jobs _ hbuf r
          simp only [PoolState.setManager] at ho hi ⊢
          rw [ho, hi]
          by_cases hr : r = rpc
          · subst hr
            obtain ⟨hg, hc, hrpc, hp⟩ := hs.round r
            rw [hphase] at hg hp
            obtain ⟨hopen, hacc⟩ := hp
            simp only [Function.update_self, if_true]
            refine ⟨?_, hc, hrpc, hopen, ?_⟩
            · simp only [ManagerPhase.unadded] at hg ⊢
              push_cast
              omega
            · rw [← hacc, ← Multiset.cons_coe, ← Multiset.singleton_add]
              abel
          · have hne : ¬ rpc = r := fun h => hr h.symm
            simpa [hr, hne] using hs.round r
  | _ => simp [hphase] at h

theorem add_poolInv {rpc : String} (hs : Healthy shardMap s) (hp : s.panic = none)
    (h : managerStep shardMap rpcs requestBody s (.add rpc) = some s') : PoolInv shardMap s' := by
  simp only [managerStep] at h
  cases hphase : (s.managers rpc).phase with
  | adding ns =>
    simp only [hphase] at h
    cases hadd : GoSync.addCounter (s.managers rpc).group 1 with
    | error e =>
      simp only [hadd, Option.some.injEq] at h
      subst h
      exact (GoSync.addCounter_eq_error.mp hadd).2
    | ok g =>
      simp only [hadd, Option.some.injEq] at h
      subst h
      obtain ⟨-, rfl⟩ := GoSync.addCounter_eq_ok.mp hadd
      obtain ⟨hg, hc, hrpc, hacc⟩ := hs.round rpc
      rw [hphase] at hg hacc
      refine poolInv_of_healthy hp (hs.setManager ⟨?_, hc, hrpc, hacc⟩)
      simp only [ManagerPhase.unadded] at hg ⊢
      omega
  | _ => simp [hphase] at h

theorem wait_poolInv {rpc : String} (hs : Healthy shardMap s) (hp : s.panic = none)
    (h : managerStep shardMap rpcs requestBody s (.wait rpc) = some s') : PoolInv shardMap s' := by
  simp only [managerStep] at h
  split_ifs at h with hcond
  obtain ⟨hsending, hzero⟩ := hcond
  cases h
  obtain ⟨hg, hc, hrpc, hacc⟩ := hs.round rpc
  rw [hsending] at hg hacc
  have hout : s.outstanding rpc = 0 := by
    simp only [ManagerPhase.unadded, hzero] at hg
    omega
  refine poolInv_of_healthy hp (hs.setManager ⟨?_, hc, hrpc, hout, hacc⟩)
  simpa [ManagerPhase.unadded] using hg

theorem close_poolInv {rpc : String} (hs : Healthy shardMap s) (hp : s.panic = none)
    (h : managerStep shardMap rpcs requestBody s (.close rpc) = some s') : PoolInv shardMap s' := by
  simp only [managerStep] at h
  split_ifs at h with hwaited
  obtain ⟨hg, hc, hrpc, hp⟩ := hs.round rpc
  rw [hwaited] at hg hp
  obtain ⟨hout, hopen, -⟩ := hp
  have hclose := Chan.close_eq_ok.mpr ⟨hopen, rfl⟩
  simp only [hclose, Option.some.injEq] at h
  subst h
  exact poolInv_of_healthy hp (hs.setManager ⟨by simpa [ManagerPhase.unadded] using hg, hc, hrpc, hout, rfl⟩)

theorem receive_poolInv {rpc : String} (hs : Healthy shardMap s) (hp : s.panic = none)
    (h : managerStep shardMap rpcs requestBody s (.receive rpc) = some s') : PoolInv shardMap s' := by
  simp only [managerStep] at h
  split_ifs at h with hdraining
  obtain ⟨hg, hc, hrpc, hp⟩ := hs.round rpc
  rw [hdraining] at hg hp
  obtain ⟨hout, hclosed⟩ := hp
  cases hrecv : (s.managers rpc).channel.recv with
  | none => simp [hrecv] at h
  | some res =>
    obtain ⟨_ | d, c⟩ := res
    · simp only [hrecv, Option.some.injEq] at h
      subst h
      exact poolInv_of_healthy hp
        (hs.setManager ⟨by simpa [ManagerPhase.unadded] using hg, rfl, by simp [Chan.make], hout, rfl, rfl⟩)
    · simp only [hrecv, Option.some.injEq] at h
      subst h
      obtain ⟨xs, hbuf, rfl⟩ := Chan.recv_eq_some.mp hrecv
      refine poolInv_of_healthy hp
        (hs.setManager ⟨by simpa [hdraining, ManagerPhase.unadded] using hg, hc, fun d' hd' => ?_, ?_⟩)
      · exact hrpc d' (by rw [hbuf]; exact List.mem_cons_of_mem d hd')
      · simpa [hdraining] using ⟨hout, hclosed⟩

theorem take_poolInv (hs : Healthy shardMap s) (hp : s.panic = none) (h : workerStep s .take = some s') :
    PoolInv shardMap s' := by
  simp only [workerStep] at h
  cases hrecv : s.jobs.recv with
  | none => simp [hrecv] at h
  | some res =>
    obtain ⟨_ | j, c⟩ := res
    · simp [hrecv] at h
    · simp only [hrecv] at h
      split_ifs at h
      cases h
      obtain ⟨xs, hbuf, rfl⟩ := Chan.recv_eq_some.mp hrecv
      refine poolInv_of_healthy hp ⟨hs.jobs_cap, hs.jobs_open, fun r => ?_⟩
      rw [PoolState.outstanding_take s _ j _ hbuf r, PoolState.inflight_take s _ j _ hbuf r]
      exact hs.round r

theorem reply_poolInv {j : Work} {rpcResult rpcPayload : Bytes} {oops : Option String}
    (hs : Healthy shardMap s) (hp : s.panic = none)
    (h : workerStep s (.reply j rpcResult rpcPayload oops) = some s') : PoolInv shardMap s' := by
  simp only [workerStep] at h
  split_ifs at h with hj
  obtain ⟨hg, hc, hrpc, -⟩ := hs.round j.rpc
  obtain ⟨ns, ⟨hopen, hacc⟩, hns⟩ := (hs.round j.rpc).accounted (PoolState.outstanding_pos_of_busy hj)
  cases hsend : (s.managers j.rpc).channel.send ⟨j.address, j.rpc, rpcPayload, rpcResult, oops⟩ with
  | none => simp [hsend] at h
  | some res =>
    cases res with
    | error e =>
      obtain ⟨hclosed, -⟩ := Chan.send_eq_error.mp hsend
      rw [hopen] at hclosed
      cases hclosed
    | ok c =>
      simp only [hsend, Option.some.injEq] at h
      subst h
      obtain ⟨-, -, rfl⟩ := Chan.send_eq_ok.mp hsend
      refine poolInv_of_healthy hp ⟨hs.jobs_cap, hs.jobs_open, fun r => ?_⟩
      have ho := PoolState.outstanding_reply s (Function.update s.managers j.rpc
        { s.managers j.rpc with channel := { (s.managers j.rpc).channel with
          buffer := (s.managers j.rpc).channel.buffer ++ [⟨j.address, j.rpc, rpcPayload, rpcResult, oops⟩] } })
        j hj r
      have hi := PoolState.inflight_reply s (Function.update s.managers j.rpc
        { s.managers j.rpc with channel := { (s.managers j.rpc).channel with
          buffer := (s.managers j.rpc).channel.buffer ++ [⟨j.address, j.rpc, rpcPayload, rpcResult, oops⟩] } })
        j hj r
      simp only [PoolState.setManager] at ho hi ⊢
      rw [ho]
      by_cases hr : r = j.rpc
      · subst hr
        simp only [if_true] at hi
        simp only [Function.update_self]
        refine ⟨hg, hc, ?_, ?_⟩
        · intro d hd
          rcases List.mem_append.mp hd with hd | hd
          · exact hrpc d hd
          · rw [List.mem_singleton.mp hd]
        · rcases hns with hph | hph <;> simp only [hph, PhaseInv] <;> exact Accounted.reply ⟨hopen, hacc⟩ hi
      · have hne : ¬ j.rpc = r := fun h => hr h.symm
        simp only [hne, if_false, add_zero] at hi
        rw [hi]
        simpa [hr] using hs.round r

theorem done_poolInv {rpc : String} (hs : Healthy shardMap s) (hp : s.panic = none)
    (h : workerStep s (.done rpc) = some s') : PoolInv shardMap s' := by
  simp only [workerStep] at h
  split_ifs at h with hrpc
  cases hadd : GoSync.addCounter (s.managers rpc).group (-1) with
  | error e =>
    simp only [hadd, Option.some.injEq] at h
    subst h
    exact (GoSync.addCounter_eq_error.mp hadd).2
  | ok g =>
    simp only [hadd, Option.some.injEq] at h
    subst h
    obtain ⟨-, rfl⟩ := GoSync.addCounter_eq_ok.mp hadd
    obtain ⟨ns, hacc, hns⟩ := (hs.round rpc).accounted (PoolState.outstanding_pos_of_replied hrpc)
    refine poolInv_of_healthy hp ⟨hs.jobs_cap, hs.jobs_open, fun r => ?_⟩
    have ho := PoolState.outstanding_done s (Function.update s.managers rpc
      { s.managers rpc with group := (s.managers rpc).group + -1 }) rpc (s.idle + 1) hrpc r
    simp only [PoolState.setManager] at ho ⊢
    rw [PoolState.inflight_done]
    by_cases hr : r = rpc
    · subst hr
      obtain ⟨hg, hc, hrs, -⟩ := hs.round r
      simp only [if_true] at ho
      simp only [Function.update_self]
      refine ⟨?_, hc, hrs, ?_⟩
      · simp only at hg ⊢
        omega
      · rcases hns with hph | hph <;> simp only [hph, PhaseInv] <;> exact hacc
    · have hne : ¬ rpc = r := fun h => hr h.symm
      simp only [hne, if_false, add_zero] at ho
      rw [ho]
      simpa [hr] using hs.round r

end Preservation

section Runs

variable (shardMap rpcs : List String) (requestBody : String → Bytes) (poolSize : Nat)

theorem poolInv_init : PoolInv shardMap (PoolState.init shardMap poolSize) := by
  refine poolInv_of_healthy rfl ⟨rfl, rfl, fun rpc => ⟨?_, rfl, by simp [PoolState.init, Chan.make], ?_⟩⟩
  · simp [PoolState.init, PoolState.outstanding, ManagerPhase.unadded, Chan.make]
  · exact ⟨by simp [PoolState.init, PoolState.outstanding, Chan.make], rfl, rfl⟩

theorem poolInv_inductive : (pool shardMap rpcs requestBody poolSize).Inductive (PoolInv shardMap) := by
  intro s a s' hs h
  simp only [pool, poolStep] at h
  cases hp : s.panic with
  | some e => simp [hp] at h
  | none =>
    have hh : Healthy shardMap s := by
      unfold PoolInv at hs
      rw [hp] at hs
      exact hs
    simp only [hp, Option.isSome_none, Bool.false_eq_true, if_false] at h
    cases a with
    | tick rpc order => exact tick_poolInv hh hp h
    | send rpc => exact send_poolInv hh hp h
    | add rpc => exact add_poolInv hh hp h
    | wait rpc => exact wait_poolInv hh hp h
    | close rpc => exact close_poolInv hh hp h
    | receive rpc => exact receive_poolInv hh hp h
    | take => exact take_poolInv hh hp h
    | reply j rpcResult rpcPayload oops => exact reply_poolInv hh hp h
    | done rpc => exact done_poolInv hh hp h

theorem poolInv_of_reachable {s : PoolState} (hs : (pool shardMap rpcs requestBody poolSize).Reachable s) :
    PoolInv shardMap s :=
  (poolInv_inductive shardMap rpcs requestBody poolSize).reachable (poolInv_init shardMap poolSize) hs

variable {shardMap rpcs requestBody poolSize}

theorem healthy_of_reachable {s : PoolState} (hs : (pool shardMap rpcs requestBody poolSize).Reachable s)
    (hp : s.panic = none) : Healthy shardMap s := by
  have h := poolInv_of_reachable shardMap rpcs requestBody poolSize hs
  unfold PoolInv at h
  rw [hp] at h
  exact h

theorem reachable_panic_eq {s : PoolState} (hs : (pool shardMap rpcs requestBody poolSize).Reachable s) :
    s.panic = none ∨ s.panic = some "sync: negative WaitGroup counter" := by
  have h := poolInv_of_reachable shardMap rpcs requestBody poolSize hs
  unfold PoolInv at h
  cases hp : s.panic with
  | none => exact .inl rfl
  | some e =>
    rw [hp] at h
    exact .inr (by rw [h])

theorem reply_channel_open {s : PoolState} (hs : (pool shardMap rpcs requestBody poolSize).Reachable s)
    (hp : s.panic = none) {j : Work} (hj : j ∈ s.busy) : (s.managers j.rpc).channel.closed = false := by
  obtain ⟨ns, ⟨hopen, -⟩, -⟩ := ((healthy_of_reachable hs hp).round j.rpc).accounted (PoolState.outstanding_pos_of_busy hj)
  exact hopen

theorem pool_step_none_of_panic {s : PoolState} {a : PoolAction} (hp : s.panic ≠ none) :
    poolStep shardMap rpcs requestBody s a = none := by
  cases h : s.panic with
  | none => exact absurd h hp
  | some e => simp [poolStep, h]

theorem wait_replies {s s' : PoolState} {rpc : String}
    (hs : (pool shardMap rpcs requestBody poolSize).Reachable s)
    (h : poolStep shardMap rpcs requestBody s (.wait rpc) = some s') :
    ((s'.managers rpc).channel.buffer.map (·.address)).Perm shardMap ∧
      ∀ d ∈ (s'.managers rpc).channel.buffer, d.rpc = rpc := by
  have hp : s.panic = none := by
    by_contra hp
    rw [pool_step_none_of_panic hp] at h
    cases h
  obtain ⟨hg, -, hrpc, hphase⟩ := (healthy_of_reachable hs hp).round rpc
  simp only [poolStep, hp, Option.isSome_none, Bool.false_eq_true, if_false, managerStep] at h
  split_ifs at h with hcond
  obtain ⟨hsending, hzero⟩ := hcond
  cases h
  rw [hsending] at hg hphase
  obtain ⟨-, hacc⟩ := hphase
  have hout : s.outstanding rpc = 0 := by
    simp only [ManagerPhase.unadded, hzero] at hg
    omega
  rw [PoolState.inflight_eq_zero hout] at hacc
  simp only [PoolState.setManager_managers, Function.update_self]
  refine ⟨Multiset.coe_eq_coe.mp ?_, hrpc⟩
  simpa using hacc

theorem done_panics_iff {s s' : PoolState} {rpc : String}
    (hs : (pool shardMap rpcs requestBody poolSize).Reachable s)
    (h : poolStep shardMap rpcs requestBody s (.done rpc) = some s') :
    s'.panic = some "sync: negative WaitGroup counter" ↔
      (∃ ns, (s.managers rpc).phase = .adding ns) ∧ s.outstanding rpc = 1 := by
  have hp : s.panic = none := by
    by_contra hp
    rw [pool_step_none_of_panic hp] at h
    cases h
  obtain ⟨hg, -, -, -⟩ := (healthy_of_reachable hs hp).round rpc
  have hrange := (s.managers rpc).phase.unadded_le_one
  simp only [poolStep, hp, Option.isSome_none, Bool.false_eq_true, if_false, workerStep] at h
  split_ifs at h with hrpc
  have hpos := PoolState.outstanding_pos_of_replied hrpc
  cases hadd : GoSync.addCounter (s.managers rpc).group (-1) with
  | error e =>
    simp only [hadd, Option.some.injEq] at h
    subst h
    obtain ⟨hneg, rfl⟩ := GoSync.addCounter_eq_error.mp hadd
    refine ⟨fun _ => ?_, fun _ => rfl⟩
    have hone : (s.managers rpc).phase.unadded = 1 := by omega
    exact ⟨(ManagerPhase.unadded_eq_one_iff _).mp hone, by omega⟩
  | ok g =>
    simp only [hadd, Option.some.injEq] at h
    subst h
    obtain ⟨hle, -⟩ := GoSync.addCounter_eq_ok.mp hadd
    refine ⟨fun hpanic => ?_, fun ⟨⟨ns, hns⟩, hone⟩ => ?_⟩
    · simp [PoolState.setManager, hp] at hpanic
    · rw [hns] at hg
      simp only [ManagerPhase.unadded] at hg
      omega

theorem pool_safety {s : PoolState} (hs : (pool shardMap rpcs requestBody poolSize).Reachable s) :
    (s.panic = none ∨ s.panic = some "sync: negative WaitGroup counter") ∧
    (s.panic = none → ∀ j ∈ s.busy, (s.managers j.rpc).channel.closed = false) ∧
    (∀ rpc s', poolStep shardMap rpcs requestBody s (.wait rpc) = some s' →
      ((s'.managers rpc).channel.buffer.map (·.address)).Perm shardMap ∧
        ∀ d ∈ (s'.managers rpc).channel.buffer, d.rpc = rpc) ∧
    ∀ rpc s', poolStep shardMap rpcs requestBody s (.done rpc) = some s' →
      (s'.panic = some "sync: negative WaitGroup counter" ↔
        (∃ ns, (s.managers rpc).phase = .adding ns) ∧ s.outstanding rpc = 1) :=
  ⟨reachable_panic_eq hs, fun hp _ hj => reply_channel_open hs hp hj, fun _ _ h => wait_replies hs h,
    fun _ _ h => done_panics_iff hs h⟩

end Runs

def oneNode : List String := ["10.0.0.1:9500"]

theorem pool_safety_refusedReply :
    ∃ s, (pool oneNode [BlockHeaderRPC] (fun _ => []) 1).run (PoolState.init oneNode 1)
        [.tick BlockHeaderRPC oneNode, .send BlockHeaderRPC, .take,
          .reply ⟨"10.0.0.1:9500", BlockHeaderRPC, []⟩ [] [] (some "dial tcp 10.0.0.1:9500: connect: connection refused")] =
        some s ∧
      (poolStep oneNode [BlockHeaderRPC] (fun _ => []) s (.done BlockHeaderRPC)).isSome = true ∧
      (s.panic = none ∨ s.panic = some "sync: negative WaitGroup counter") ∧
      (s.panic = none → ∀ j ∈ s.busy, (s.managers j.rpc).channel.closed = false) ∧
      (∀ rpc s', poolStep oneNode [BlockHeaderRPC] (fun _ => []) s (.wait rpc) = some s' →
        ((s'.managers rpc).channel.buffer.map (·.address)).Perm oneNode ∧
          ∀ d ∈ (s'.managers rpc).channel.buffer, d.rpc = rpc) ∧
      ∀ rpc s', poolStep oneNode [BlockHeaderRPC] (fun _ => []) s (.done rpc) = some s' →
        (s'.panic = some "sync: negative WaitGroup counter" ↔
          (∃ ns, (s.managers rpc).phase = .adding ns) ∧ s.outstanding rpc = 1) := by
  obtain ⟨s, hs⟩ : ∃ s, (pool oneNode [BlockHeaderRPC] (fun _ => []) 1).run (PoolState.init oneNode 1)
      [.tick BlockHeaderRPC oneNode, .send BlockHeaderRPC, .take,
        .reply ⟨"10.0.0.1:9500", BlockHeaderRPC, []⟩ [] [] (some "dial tcp 10.0.0.1:9500: connect: connection refused")] =
      some s :=
    Option.isSome_iff_exists.mp (by decide +kernel)
  have hdone : ((pool oneNode [BlockHeaderRPC] (fun _ => []) 1).run (PoolState.init oneNode 1)
      ([.tick BlockHeaderRPC oneNode, .send BlockHeaderRPC, .take,
        .reply ⟨"10.0.0.1:9500", BlockHeaderRPC, []⟩ [] [] (some "dial tcp 10.0.0.1:9500: connect: connection refused")] ++
        [.done BlockHeaderRPC])).isSome = true := by
    decide +kernel
  rw [Interleaving.System.run_append, hs, Option.bind_some, Interleaving.System.run_cons] at hdone
  refine ⟨s, hs, ?_, pool_safety ⟨_, hs⟩⟩
  cases h : poolStep oneNode [BlockHeaderRPC] (fun _ => []) s (.done BlockHeaderRPC) with
  | none =>
    have hstep : (pool oneNode [BlockHeaderRPC] (fun _ => []) 1).step s (.done BlockHeaderRPC) = none := h
    rw [hstep] at hdone
    cases hdone
  | some s' => rfl

theorem pool_negative_waitGroup :
    ((pool oneNode [BlockHeaderRPC] (fun _ => []) 1).run (PoolState.init oneNode 1)
      [.tick BlockHeaderRPC oneNode, .send BlockHeaderRPC, .take,
        .reply ⟨"10.0.0.1:9500", BlockHeaderRPC, []⟩ [] [] (some "dial tcp 10.0.0.1:9500: connect: connection refused"),
        .done BlockHeaderRPC]).map (·.panic) = some (some "sync: negative WaitGroup counter") := by
  decide +kernel

end Watchdog
