import Mathlib
import Watchdog.Report.Summary
import Watchdog.Consensus.ShardHeight
import Watchdog.Manager.Replies

namespace Watchdog

open GoNumeric
open GoMap (RangeOrder set)

structure LastSuccessfulBlock where
  Height : UInt64
  TS : Int
  deriving DecidableEq, Repr

structure ConsensusState where
  lastShardData : List (String × LastSuccessfulBlock)
  consensusStatus : List (String × Bool)
  deriving DecidableEq, Repr

def ConsensusState.init : ConsensusState := ⟨[], []⟩

structure ConsensusAlert where
  incidentKey : String
  shard : String
  height : UInt64
  since : Int
  header : BlockHeader
  timeSinceLastSuccess : Int
  deriving DecidableEq, Repr

def consensusAlert (chain shard : String) (now : Int) (currentBlockHeight : UInt64)
    (lastBlock : LastSuccessfulBlock) (currentBlockHeader : BlockHeader) : ConsensusAlert :=
  ⟨"Shard " ++ shard ++ " consensus stuck! - " ++ chain, shard, currentBlockHeight, lastBlock.TS,
    currentBlockHeader, timeSub now lastBlock.TS⟩

inductive ConsensusEffect where
  | checkShardHeight (nodes : List BlockHeader)
  | beaconSyncMonitor (beaconBlock : UInt64)
  | notify (alert : ConsensusAlert)
  deriving DecidableEq, Repr

def consensusShardStep (warning : UInt64) (chain : String) (now : Int)
    (acc : ConsensusState × List ConsensusEffect) (entry : String × GoValue) :
    Except GoSlice.Panic (ConsensusState × List ConsensusEffect) := do
  let (shard, summary) := entry
  let (st, effects) := acc
  let currentBlockHeight ← (index (← summary.asAny) blockMax).asUInt64
  let currentBlockHeader ← (index (← summary.asAny) "latest-block").asBlockHeader
  let effects := if shard = "0" then effects ++ [.beaconSyncMonitor currentBlockHeight] else effects
  let recorded : ConsensusState × List ConsensusEffect :=
    ({ lastShardData := set st.lastShardData shard
        ⟨currentBlockHeight, unixTime currentBlockHeader.Payload.UnixTime⟩
       consensusStatus := set st.consensusStatus shard true }, effects)
  match st.lastShardData.lookup shard with
  | some lastBlock =>
    if currentBlockHeight ≤ lastBlock.Height then
      let timeSinceLastSuccess := timeSub now lastBlock.TS
      if 0 < seconds timeSinceLastSuccess ∧ warning < floatToUInt64 (seconds timeSinceLastSuccess) then
        pure ({ st with consensusStatus := set st.consensusStatus shard false },
          effects ++ [.notify (consensusAlert chain shard now currentBlockHeight lastBlock
            currentBlockHeader)])
      else pure recorded
    else pure recorded
  | none => pure recorded

def consensusTick (q : Linq.Query) (ord : RangeOrder) (warning : UInt64) (chain : String)
    (now : Int) (nodes : List BlockHeader) (st : ConsensusState) :
    Except GoSlice.Panic (ConsensusState × List ConsensusEffect) :=
  let blockHeaderData := blockHeaderSummary q nodes true []
  (ord.arrange blockHeaderData).foldlM (consensusShardStep warning chain now)
    (st, [.checkShardHeight nodes])

def consensusRound (q : Linq.Query) (ord : RangeOrder) (decodeHeader : Bytes → BlockHeaderReply)
    (warning : UInt64) (chain : String) (shardMap : List (String × Int64)) (m : Monitor) (now : Int)
    (replies : List Reply) (st : ConsensusState) :
    Except GoSlice.Panic (ConsensusState × List ConsensusEffect) :=
  let monitorData := consensusReplies decodeHeader shardMap m replies
  consensusTick q ord warning chain now monitorData.Nodes st

def consensusRun (q : Linq.Query) (ord : Nat → RangeOrder) (decodeHeader : Bytes → BlockHeaderReply)
    (warning : UInt64) (chain : String) (shardMap : List (String × Int64)) :
    ConsensusState → List (Int × Monitor × List Reply) →
      Except GoSlice.Panic (List (ConsensusState × List ConsensusEffect))
  | _, [] => pure []
  | st, (now, m, replies) :: ticks => do
    let out ← consensusRound q (ord 0) decodeHeader warning chain shardMap m now replies st
    let rest ← consensusRun q (fun i => ord (i + 1)) decodeHeader warning chain shardMap out.1 ticks
    pure (out :: rest)

def consensusSteps (q : Linq.Query) (ord : Nat → RangeOrder) (warning : UInt64) (chain : String) :
    ConsensusState → List (Int × List BlockHeader) →
      Except GoSlice.Panic (List (ConsensusState × List ConsensusEffect))
  | _, [] => pure []
  | st, (now, nodes) :: ticks => do
    let out ← consensusTick q (ord 0) warning chain now nodes st
    let rest ← consensusSteps q (fun i => ord (i + 1)) warning chain out.1 ticks
    pure (out :: rest)

def headerTicks (decodeHeader : Bytes → BlockHeaderReply) (ticks : List (Int × Monitor × List Reply)) :
    List (Int × List BlockHeader) :=
  ticks.map fun t => (t.1, successes (fun d => ⟨decodeHeader d.rpcResult, d.address⟩) t.2.2)

def ConsensusEffect.shardOf : ConsensusEffect → Option String
  | .checkShardHeight _ => none
  | .beaconSyncMonitor _ => some "0"
  | .notify alert => some alert.shard

def consensusObservation (k : String) (out : ConsensusState × List ConsensusEffect) :
    Option Bool × List ConsensusEffect :=
  (out.1.consensusStatus.lookup k, out.2.filter fun e => e.shardOf = some k)

def stuckSince (warning : UInt64) (now : Int) (currentBlockHeight : UInt64) :
    Option LastSuccessfulBlock → Option LastSuccessfulBlock
  | some lastBlock =>
    if currentBlockHeight ≤ lastBlock.Height ∧ 0 < seconds (timeSub now lastBlock.TS) ∧
        warning < floatToUInt64 (seconds (timeSub now lastBlock.TS)) then some lastBlock else none
  | none => none

def nextRecord (warning : UInt64) (now : Int) (cur : UInt64) (header : BlockHeader)
    (last : Option LastSuccessfulBlock) : Option LastSuccessfulBlock :=
  if (stuckSince warning now cur last).isSome then last else some ⟨cur, unixTime header.Payload.UnixTime⟩

def shardTick (warning : UInt64) (chain : String) (now : Int) (shard : String) (cur : UInt64)
    (header : BlockHeader) (last : Option LastSuccessfulBlock) :
    Option LastSuccessfulBlock × Bool × List ConsensusEffect :=
  let launch : List ConsensusEffect := if shard = "0" then [.beaconSyncMonitor cur] else []
  match stuckSince warning now cur last with
  | some lastBlock => (last, false, launch ++ [.notify (consensusAlert chain shard now cur lastBlock header)])
  | none => (some ⟨cur, unixTime header.Payload.UnixTime⟩, true, launch)

def shardHeaders (nodes : List BlockHeader) (s : UInt32) : List BlockHeader :=
  nodes.filter fun v => v.Payload.ShardID = s

def latestOf (hs : List BlockHeader) : Option BlockHeader :=
  (blocks hs).max?.bind fun mx => hs.find? fun c => c.Payload.BlockNumber = mx

def shardRun (warning : UInt64) (chain : String) (s : UInt32) :
    Option LastSuccessfulBlock → Option Bool → List (Int × List BlockHeader) →
      List (Option Bool × List ConsensusEffect)
  | _, _, [] => []
  | last, status, (now, nodes) :: ticks =>
    match latestOf (shardHeaders nodes s) with
    | none => (status, []) :: shardRun warning chain s last status ticks
    | some header =>
      let r := shardTick warning chain now (shardKey s) header.Payload.BlockNumber header last
      (some r.2.1, r.2.2) :: shardRun warning chain s r.1 (some r.2.1) ticks

def lastRecord (warning : UInt64) (s : UInt32) (last : Option LastSuccessfulBlock)
    (ticks : List (Int × List BlockHeader)) : Option LastSuccessfulBlock :=
  ticks.foldl (fun last tick =>
    match latestOf (shardHeaders tick.2 s) with
    | none => last
    | some header => nextRecord warning tick.1 header.Payload.BlockNumber header last) last

theorem consensusRound_eq (q : Linq.Query) (ord : RangeOrder) (decodeHeader : Bytes → BlockHeaderReply)
    (warning : UInt64) (chain : String) (shardMap : List (String × Int64)) (m : Monitor) (now : Int)
    (replies : List Reply) (st : ConsensusState) :
    consensusRound q ord decodeHeader warning chain shardMap m now replies st =
      consensusTick q ord warning chain now
        (successes (fun d => ⟨decodeHeader d.rpcResult, d.address⟩) replies) st := by
  rw [consensusRound, (consensusReplies_spec decodeHeader shardMap m replies).1]

theorem consensusRun_eq_consensusSteps (q : Linq.Query) (decodeHeader : Bytes → BlockHeaderReply)
    (warning : UInt64) (chain : String) (shardMap : List (String × Int64)) :
    ∀ (ticks : List (Int × Monitor × List Reply)) (ord : Nat → RangeOrder) (st : ConsensusState),
      consensusRun q ord decodeHeader warning chain shardMap st ticks =
        consensusSteps q ord warning chain st (headerTicks decodeHeader ticks)
  | [], _, _ => rfl
  | (now, m, replies) :: ticks, ord, st => by
    simp only [consensusRun, consensusSteps, headerTicks, List.map_cons, consensusRound_eq]
    congr 1
    funext out
    rw [consensusRun_eq_consensusSteps q decodeHeader warning chain shardMap ticks]
    rfl

section Step

variable {warning : UInt64} {chain : String} {now : Int}

theorem stuckSince_some_iff (hw : warning.toNat < 2 ^ 24) (cur : UInt64) (b : LastSuccessfulBlock) :
    (stuckSince warning now cur (some b)).isSome ↔
      cur ≤ b.Height ∧ b.TS < now ∧ warning.toNat < (timeSub now b.TS / second).toNat := by
  have hpos : 0 < seconds (timeSub now b.TS) ↔ b.TS < now :=
    (seconds_pos_iff (le_timeSub now b.TS) (timeSub_le now b.TS)).trans (timeSub_pos_iff now b.TS)
  have hcount : b.TS < now → (warning < floatToUInt64 (seconds (timeSub now b.TS)) ↔
      warning.toNat < (timeSub now b.TS / second).toNat) := fun hlt =>
    lt_floatToUInt64_seconds_iff hw ((timeSub_pos_iff now b.TS).mpr hlt).le (timeSub_le now b.TS)
  simp only [stuckSince]
  by_cases hlt : b.TS < now
  · by_cases hc : cur ≤ b.Height ∧ warning.toNat < (timeSub now b.TS / second).toNat
    · simp [hc, hpos.mpr hlt, (hcount hlt).mpr hc.2, hlt]
    · rw [if_neg fun h => hc ⟨h.1, (hcount hlt).mp h.2.2⟩]
      simp only [Option.isSome_none, Bool.false_eq_true, false_iff]
      exact fun h => hc ⟨h.1, h.2.2⟩
  · rw [if_neg fun h => hlt (hpos.mp h.2.1)]
    simp only [Option.isSome_none, Bool.false_eq_true, false_iff]
    exact fun h => hlt h.2.1

theorem stuckSince_header_iff (hw : warning.toNat < 2 ^ 24) (cur height : UInt64) {sec : Int64}
    (hsec : sec.toInt ≤ 9223371974719179007) :
    (stuckSince warning now cur (some ⟨height, unixTime sec⟩)).isSome ↔
      cur ≤ height ∧ sec.toInt * second < now ∧
        warning.toNat < (timeSub now (sec.toInt * second) / second).toNat := by
  rw [stuckSince_some_iff hw, unixTime_of_le hsec]

theorem stuckSince_wrapped (hw : warning.toNat < 9223372036) (hnow : 0 ≤ now) {cur height : UInt64}
    (hle : cur ≤ height) {sec : Int64} (hsec : 9223371974719179007 < sec.toInt) :
    stuckSince warning now cur (some ⟨height, unixTime sec⟩) = some ⟨height, unixTime sec⟩ := by
  have hmax : timeSub now (unixTime sec) = maxDuration := by
    have hlt := Int64.toInt_lt sec
    apply timeSub_of_gt
    rw [unixTime_of_gt hsec]
    simp only [maxDuration, second]
    omega
  have hpos : 0 < seconds maxDuration := seconds_pos le_rfl (by norm_num [maxDuration])
  have hcount : warning < floatToUInt64 (seconds maxDuration) := by
    rw [UInt64.lt_iff_toNat_lt]
    rcases floatToUInt64_seconds (by norm_num [maxDuration]) le_rfl with h | ⟨-, h⟩ <;>
      rw [h] <;> norm_num [maxDuration, second] <;> omega
  simp [stuckSince, hle, hmax, hpos, hcount]

theorem consensusShardStep_eq {d : Dict} {cur : UInt64} {header : BlockHeader}
    (hmax : index d blockMax = .uint64 cur) (hlatest : index d "latest-block" = .blockHeader header)
    (st : ConsensusState) (effects : List ConsensusEffect) (shard : String) :
    consensusShardStep warning chain now (st, effects) (shard, .anyMap d) =
      .ok ({ lastShardData :=
              if (stuckSince warning now cur (st.lastShardData.lookup shard)).isSome then st.lastShardData
              else set st.lastShardData shard ⟨cur, unixTime header.Payload.UnixTime⟩
             consensusStatus := set st.consensusStatus shard
              (shardTick warning chain now shard cur header (st.lastShardData.lookup shard)).2.1 },
        effects ++ (shardTick warning chain now shard cur header (st.lastShardData.lookup shard)).2.2) := by
  have hlaunch : (if shard = "0" then effects ++ [.beaconSyncMonitor cur] else effects) =
      effects ++ if shard = "0" then [.beaconSyncMonitor cur] else [] := by
    split <;> simp
  simp only [consensusShardStep, GoValue.asAny, bind, Except.bind, hmax, GoValue.asUInt64, hlatest,
    GoValue.asBlockHeader, pure, Except.pure, hlaunch]
  cases hlast : st.lastShardData.lookup shard with
  | none => simp [shardTick, stuckSince]
  | some lastBlock =>
    by_cases hle : cur ≤ lastBlock.Height
    · by_cases hstuck : 0 < seconds (timeSub now lastBlock.TS) ∧
          warning < floatToUInt64 (seconds (timeSub now lastBlock.TS))
      · simp [shardTick, stuckSince, hle, hstuck]
      · simp [shardTick, stuckSince, hle, hstuck]
    · simp [shardTick, stuckSince, hle]

def consensusView (acc : ConsensusState × List ConsensusEffect) (k : String) :
    Option LastSuccessfulBlock × Option Bool × List ConsensusEffect :=
  (acc.1.lastShardData.lookup k, consensusObservation k acc)

def tickView (warning : UInt64) (chain : String) (now : Int) (shard : String) (cur : UInt64)
    (header : BlockHeader) (w : Option LastSuccessfulBlock × Option Bool × List ConsensusEffect) :
    Option LastSuccessfulBlock × Option Bool × List ConsensusEffect :=
  let r := shardTick warning chain now shard cur header w.1
  (r.1, some r.2.1, w.2.2 ++ r.2.2)

theorem shardTick_fst (shard : String) (cur : UInt64) (header : BlockHeader)
    (last : Option LastSuccessfulBlock) :
    (shardTick warning chain now shard cur header last).1 = nextRecord warning now cur header last := by
  unfold shardTick nextRecord
  cases stuckSince warning now cur last <;> rfl

theorem shardOf_shardTick (shard : String) (cur : UInt64) (header : BlockHeader)
    (last : Option LastSuccessfulBlock) :
    ∀ e ∈ (shardTick warning chain now shard cur header last).2.2, e.shardOf = some shard := by
  have hlaunch : ∀ e ∈ (if shard = "0" then [ConsensusEffect.beaconSyncMonitor cur] else []),
      e.shardOf = some shard := by
    split
    · rename_i h0
      simp [ConsensusEffect.shardOf, h0]
    · simp
  unfold shardTick
  cases stuckSince warning now cur last with
  | none => exact hlaunch
  | some lastBlock =>
    intro e he
    rcases List.mem_append.mp he with he | he
    · exact hlaunch e he
    · simp [List.mem_singleton.mp he, ConsensusEffect.shardOf, consensusAlert]

theorem consensusShardStep_view {d : Dict} {cur : UInt64} {header : BlockHeader}
    (hmax : index d blockMax = .uint64 cur) (hlatest : index d "latest-block" = .blockHeader header)
    (acc : ConsensusState × List ConsensusEffect) (shard : String) :
    ∃ acc', consensusShardStep warning chain now acc (shard, .anyMap d) = .ok acc' ∧
      consensusView acc' shard = tickView warning chain now shard cur header (consensusView acc shard) ∧
      ∀ k, k ≠ shard → consensusView acc' k = consensusView acc k := by
  obtain ⟨st, effects⟩ := acc
  have hown : ∀ e ∈ (shardTick warning chain now shard cur header (st.lastShardData.lookup shard)).2.2,
      e.shardOf = some shard :=
    shardOf_shardTick shard cur header _
  refine ⟨_, consensusShardStep_eq hmax hlatest st effects shard, ?_, fun k hk => ?_⟩
  · have hself : (shardTick warning chain now shard cur header (st.lastShardData.lookup shard)).2.2.filter
        (fun e => e.shardOf = some shard) = (shardTick warning chain now shard cur header
          (st.lastShardData.lookup shard)).2.2 :=
      List.filter_eq_self.mpr fun e he => by simp [hown e he]
    have hlast : (if (stuckSince warning now cur (st.lastShardData.lookup shard)).isSome then
        st.lastShardData else set st.lastShardData shard ⟨cur, unixTime header.Payload.UnixTime⟩).lookup shard =
        (shardTick warning chain now shard cur header (st.lastShardData.lookup shard)).1 := by
      rw [shardTick_fst, nextRecord]
      split <;> simp
    simp only [consensusView, consensusObservation, tickView, List.filter_append, hself, hlast,
      GoMap.lookup_set_self]
  · have hnone : (shardTick warning chain now shard cur header (st.lastShardData.lookup shard)).2.2.filter
        (fun e => e.shardOf = some k) = [] :=
      List.filter_eq_nil_iff.mpr fun e he => by simp [hown e he, Ne.symm hk]
    have hlast : (if (stuckSince warning now cur (st.lastShardData.lookup shard)).isSome then
        st.lastShardData else set st.lastShardData shard ⟨cur, unixTime header.Payload.UnixTime⟩).lookup k =
        st.lastShardData.lookup k := by
      split
      · rfl
      · exact GoMap.lookup_set_of_ne _ hk _
    simp only [consensusView, consensusObservation, List.filter_append, hnone, hlast,
      GoMap.lookup_set_of_ne _ hk, List.append_nil]

end Step

section Tick

variable {q : Linq.Query}

theorem shardHeaders_ne_nil_iff (nodes : List BlockHeader) (s : UInt32) :
    shardHeaders nodes s ≠ [] ↔ s ∈ nodes.map fun v => v.Payload.ShardID := by
  constructor
  · intro hne
    obtain ⟨v, hv⟩ := List.exists_mem_of_ne_nil _ hne
    obtain ⟨hv, hvs⟩ := List.mem_filter.mp hv
    exact List.mem_map.mpr ⟨v, hv, of_decide_eq_true hvs⟩
  · intro hs
    obtain ⟨v, hv, rfl⟩ := List.mem_map.mp hs
    exact List.ne_nil_of_mem (List.mem_filter.mpr ⟨hv, by simp⟩)

theorem latestOf_shardEntry (hq : q.Documented) {hs : List BlockHeader} (hne : hs ≠ []) :
    ∃ header, latestOf hs = some header ∧
      index (shardEntry q true hs) blockMax = .uint64 header.Payload.BlockNumber ∧
      index (shardEntry q true hs) "latest-block" = .blockHeader header := by
  obtain ⟨mx, hmx, hmax, h, hfind, hlatest⟩ := (shardEntry_spec hq hne).block_max
  have hnum : h.Payload.BlockNumber = mx := by simpa using List.find?_some hfind
  refine ⟨h, ?_, ?_, ?_⟩
  · simp [latestOf, List.max?_eq_some_iff.mpr hmax, hfind]
  · simp [index, hmx, hnum]
  · simp [index, hlatest]

theorem consensusTick_view (hq : q.Documented) (ord : RangeOrder) (warning : UInt64) (chain : String)
    (now : Int) (nodes : List BlockHeader) (st : ConsensusState) :
    ∃ out, consensusTick q ord warning chain now nodes st = .ok out ∧ ∀ s : UInt32,
      consensusView out (shardKey s) =
        match latestOf (shardHeaders nodes s) with
        | none => (st.lastShardData.lookup (shardKey s), st.consensusStatus.lookup (shardKey s), [])
        | some header => tickView warning chain now (shardKey s) header.Payload.BlockNumber header
            (st.lastShardData.lookup (shardKey s), st.consensusStatus.lookup (shardKey s), []) := by
  set es := ord.arrange (blockHeaderSummary q nodes true [])
  have hnd : (es.map Prod.fst).Nodup :=
    ((ord.perm _).map Prod.fst).nodup_iff.mpr (nodup_keys_blockHeaderSummary_nil hq nodes true)
  have hmem : ∀ e, e ∈ es ↔ ∃ s ∈ nodes.map (fun v => v.Payload.ShardID),
      e = (shardKey s, .anyMap (shardEntry q true (shardHeaders nodes s))) :=
    fun e => ord.mem_arrange.trans (mem_blockHeaderSummary_nil hq nodes)
  let R : String × GoValue → Option LastSuccessfulBlock × Option Bool × List ConsensusEffect →
      Option LastSuccessfulBlock × Option Bool × List ConsensusEffect → Prop :=
    fun e w w' => ∃ d cur header, e.2 = .anyMap d ∧ index d blockMax = .uint64 cur ∧
      index d "latest-block" = .blockHeader header ∧ w' = tickView warning chain now e.1 cur header w
  have hstep : ∀ e ∈ es, ∀ acc, True → ∃ acc', consensusShardStep warning chain now acc e = .ok acc' ∧
      True ∧ R e (consensusView acc e.1) (consensusView acc' e.1) ∧
      ∀ k, k ≠ e.1 → consensusView acc' k = consensusView acc k := by
    intro e he acc _
    obtain ⟨s, hs, rfl⟩ := (hmem e).mp he
    obtain ⟨header, -, hmax, hlatest⟩ :=
      latestOf_shardEntry hq ((shardHeaders_ne_nil_iff nodes s).mpr hs)
    obtain ⟨acc', hacc', hview, hother⟩ := consensusShardStep_view hmax hlatest acc (shardKey s)
    exact ⟨acc', hacc', trivial, ⟨_, _, _, rfl, hmax, hlatest, hview⟩, hother⟩
  obtain ⟨out, hout, -, hother, hR⟩ :=
    GoMap.foldlM_keyed (fun _ => True) consensusView R _ es hnd hstep (st, [.checkShardHeight nodes]) trivial
  have hinit : ∀ k, consensusView (st, [.checkShardHeight nodes]) k =
      (st.lastShardData.lookup k, st.consensusStatus.lookup k, []) := by
    intro k
    simp [consensusView, consensusObservation, ConsensusEffect.shardOf]
  refine ⟨out, hout, fun s => ?_⟩
  cases hl : latestOf (shardHeaders nodes s) with
  | none =>
    have hk : shardKey s ∉ es.map Prod.fst := by
      intro hk
      obtain ⟨e, he, hek⟩ := List.mem_map.mp hk
      obtain ⟨s', hs', rfl⟩ := (hmem e).mp he
      obtain rfl : s' = s := shardKey_injective hek
      obtain ⟨header, hsome, -⟩ := latestOf_shardEntry hq ((shardHeaders_ne_nil_iff nodes s').mpr hs')
      rw [hl] at hsome
      cases hsome
    rw [hother _ hk, hinit]
  | some header =>
    have hs : s ∈ nodes.map fun v => v.Payload.ShardID := by
      refine (shardHeaders_ne_nil_iff nodes s).mp fun h => ?_
      rw [h] at hl
      cases hl
    obtain ⟨d, cur, header', hd, hmax', hlatest', hview⟩ := hR _ ((hmem _).mpr ⟨s, hs, rfl⟩)
    obtain ⟨header'', hl', hmax, hlatest⟩ :=
      latestOf_shardEntry hq ((shardHeaders_ne_nil_iff nodes s).mpr hs)
    obtain rfl : header'' = header := Option.some.inj (hl'.symm.trans hl)
    obtain rfl : shardEntry q true (shardHeaders nodes s) = d := GoValue.anyMap.inj hd
    obtain rfl : cur = header''.Payload.BlockNumber := GoValue.uint64.inj (hmax'.symm.trans hmax)
    obtain rfl : header' = header'' := GoValue.blockHeader.inj (hlatest'.symm.trans hlatest)
    rw [hview, hinit]

theorem getElem?_shardRun (warning : UInt64) (chain : String) (s : UInt32) :
    ∀ (ticks : List (Int × List BlockHeader)) (last : Option LastSuccessfulBlock) (status : Option Bool)
      (i : Nat) (now : Int) (nodes : List BlockHeader) (header : BlockHeader),
      ticks[i]? = some (now, nodes) → latestOf (shardHeaders nodes s) = some header →
        (shardRun warning chain s last status ticks)[i]? =
          let r := shardTick warning chain now (shardKey s) header.Payload.BlockNumber header
            (lastRecord warning s last (ticks.take i))
          some (some r.2.1, r.2.2) := by
  intro ticks
  induction ticks with
  | nil => intro _ _ _ _ _ _ h; simp at h
  | cons tick ticks ih =>
    intro last status i now nodes header htick hl
    obtain ⟨now', nodes'⟩ := tick
    cases i with
    | zero =>
      obtain ⟨rfl, rfl⟩ : now' = now ∧ nodes' = nodes := by simpa using htick
      simp [shardRun, hl, lastRecord]
    | succ i =>
      have htick' : ticks[i]? = some (now, nodes) := by simpa using htick
      cases hl' : latestOf (shardHeaders nodes' s) with
      | none =>
        simp only [shardRun, hl', List.getElem?_cons_succ, List.take_succ_cons]
        rw [ih last status i now nodes header htick' hl]
        simp [lastRecord, hl']
      | some header' =>
        simp only [shardRun, hl', List.getElem?_cons_succ, List.take_succ_cons]
        rw [ih _ _ i now nodes header htick' hl, shardTick_fst]
        simp [lastRecord, hl']

theorem consensusSteps_observe (hq : q.Documented) (warning : UInt64) (chain : String) :
    ∀ (ticks : List (Int × List BlockHeader)) (ord : Nat → RangeOrder) (st : ConsensusState), ∃ outs,
      consensusSteps q ord warning chain st ticks = .ok outs ∧ ∀ s : UInt32,
        outs.map (consensusObservation (shardKey s)) =
          shardRun warning chain s (st.lastShardData.lookup (shardKey s))
            (st.consensusStatus.lookup (shardKey s)) ticks := by
  intro ticks
  induction ticks with
  | nil => exact fun _ _ => ⟨[], rfl, fun _ => rfl⟩
  | cons tick ticks ih =>
    intro ord st
    obtain ⟨now, nodes⟩ := tick
    obtain ⟨out, hout, hview⟩ := consensusTick_view hq (ord 0) warning chain now nodes st
    obtain ⟨outs, houts, hobs⟩ := ih (fun i => ord (i + 1)) out.1
    refine ⟨out :: outs, by simp [consensusSteps, hout, houts, bind, Except.bind, pure, Except.pure],
      fun s => ?_⟩
    have hs := hview s
    rw [List.map_cons, hobs s, shardRun]
    cases hl : latestOf (shardHeaders nodes s) with
    | none =>
      rw [hl] at hs
      simp only [consensusView, consensusObservation, Prod.mk.injEq] at hs
      obtain ⟨hlast, hstatus, heffects⟩ := hs
      simp only [consensusObservation, hlast, hstatus, heffects]
    | some header =>
      rw [hl] at hs
      simp only [consensusView, consensusObservation, tickView, List.nil_append, Prod.mk.injEq] at hs
      obtain ⟨hlast, hstatus, heffects⟩ := hs
      simp only [consensusObservation, hlast, hstatus, heffects]

theorem consensusRun_refines_shardRun (hq : q.Documented) (ord : Nat → RangeOrder)
    (decodeHeader : Bytes → BlockHeaderReply) (warning : UInt64) (chain : String)
    (shardMap : List (String × Int64)) (ticks : List (Int × Monitor × List Reply)) :
    ∃ outs, consensusRun q ord decodeHeader warning chain shardMap .init ticks = .ok outs ∧ ∀ s : UInt32,
      outs.map (consensusObservation (shardKey s)) = shardRun warning chain s none none (headerTicks decodeHeader ticks) ∧
      ∀ i now nodes header, (headerTicks decodeHeader ticks)[i]? = some (now, nodes) →
        latestOf (shardHeaders nodes s) = some header →
        (outs.map (consensusObservation (shardKey s)))[i]? =
          let r := shardTick warning chain now (shardKey s) header.Payload.BlockNumber header
            (lastRecord warning s none ((headerTicks decodeHeader ticks).take i))
          some (some r.2.1, r.2.2) := by
  obtain ⟨outs, hrun, hobs⟩ := consensusSteps_observe hq warning chain (headerTicks decodeHeader ticks) ord .init
  refine ⟨outs, by rw [consensusRun_eq_consensusSteps, hrun], fun s => ⟨hobs s, fun i now nodes header htick hl => ?_⟩⟩
  rw [hobs s]
  exact getElem?_shardRun warning chain s _ none none i now nodes header htick hl

def leaderHeader (n : UInt64) (unixTime : Int64) : BlockHeaderReply :=
  ⟨"0x" ++ toString n, n, 0, "one1leader", 1, 0, "t", unixTime, [], "ff"⟩

def stuckReplies : List (Int × Monitor × List Reply) :=
  [(101000000000, Monitor.init "mainnet", [⟨"10.0.0.1:9500", BlockHeaderRPC, [], [10], none⟩]),
   (105000000000, Monitor.init "mainnet", [⟨"10.0.0.2:9500", BlockHeaderRPC, [], [5], none⟩]),
   (110000000000, Monitor.init "mainnet", [⟨"10.0.0.2:9500", BlockHeaderRPC, [], [5], none⟩])]

def decodeStuck (b : Bytes) : BlockHeaderReply :=
  if b = [10] then leaderHeader 10 100 else leaderHeader 5 50

theorem consensusRun_refines_shardRun_stuckRun :
    Linq.Query.reference.Documented ∧
    ∃ outs, consensusRun Linq.Query.reference (fun _ => RangeOrder.insertion) decodeStuck 30 "" []
        .init stuckReplies = .ok outs ∧
      ∀ s : UInt32,
      outs.map (consensusObservation (shardKey s)) =
        shardRun 30 "" s none none (headerTicks decodeStuck stuckReplies) ∧
      ∀ i now nodes header,
        (headerTicks decodeStuck stuckReplies)[i]? = some (now, nodes) →
        latestOf (shardHeaders nodes s) = some header →
        (outs.map (consensusObservation (shardKey s)))[i]? =
          let r := shardTick 30 "" now (shardKey s) header.Payload.BlockNumber header
            (lastRecord 30 s none ((headerTicks decodeStuck stuckReplies).take i))
          some (some r.2.1, r.2.2) :=
  ⟨Linq.Query.reference_documented,
    consensusRun_refines_shardRun Linq.Query.reference_documented (fun _ => RangeOrder.insertion) decodeStuck 30 "" []
      stuckReplies⟩

def highestRecord (s : UInt32) (ticks : List (Int × List BlockHeader)) : Option LastSuccessfulBlock :=
  ticks.foldl (fun best tick =>
    match latestOf (shardHeaders tick.2 s), best with
    | none, _ => best
    | some header, some b =>
      if header.Payload.BlockNumber ≤ b.Height then best
      else some ⟨header.Payload.BlockNumber, header.Payload.UnixTime.toInt * second⟩
    | some header, none => some ⟨header.Payload.BlockNumber, header.Payload.UnixTime.toInt * second⟩) none

def highestBlockAlert (warning : UInt64) (now : Int) (cur : UInt64) : Option LastSuccessfulBlock → Bool
  | some b => decide (cur ≤ b.Height ∧ warning.toNat < ((now - b.TS) / second).toNat)
  | none => false

def StampsOrdered (s : UInt32) (ticks : List (Int × List BlockHeader)) : Prop :=
  ∀ a ∈ ticks.flatMap (fun tick => shardHeaders tick.2 s),
    ∀ b ∈ ticks.flatMap (fun tick => shardHeaders tick.2 s),
      (a.Payload.BlockNumber = b.Payload.BlockNumber → a.Payload.UnixTime = b.Payload.UnixTime) ∧
      (a.Payload.BlockNumber < b.Payload.BlockNumber → a.Payload.UnixTime ≤ b.Payload.UnixTime)

instance (s : UInt32) (ticks : List (Int × List BlockHeader)) : Decidable (StampsOrdered s ticks) :=
  inferInstanceAs (Decidable (∀ a ∈ ticks.flatMap (fun tick => shardHeaders tick.2 s),
    ∀ b ∈ ticks.flatMap (fun tick => shardHeaders tick.2 s),
      (a.Payload.BlockNumber = b.Payload.BlockNumber → a.Payload.UnixTime = b.Payload.UnixTime) ∧
      (a.Payload.BlockNumber < b.Payload.BlockNumber → a.Payload.UnixTime ≤ b.Payload.UnixTime)))

def HighestBlockRule (q : Linq.Query) (ord : Nat → RangeOrder) (decodeHeader : Bytes → BlockHeaderReply)
    (warning : UInt64) (chain : String) (shardMap : List (String × Int64)) : Prop :=
  ∀ ticks : List (Int × Monitor × List Reply), ticks.Pairwise (fun a b => a.1 < b.1) →
    ∀ s : UInt32, StampsOrdered s (headerTicks decodeHeader ticks) →
      ∀ outs, consensusRun q ord decodeHeader warning chain shardMap .init ticks = .ok outs →
        ∀ i now nodes header, (headerTicks decodeHeader ticks)[i]? = some (now, nodes) →
          latestOf (shardHeaders nodes s) = some header →
          let alert := highestBlockAlert warning now header.Payload.BlockNumber
            (highestRecord s ((headerTicks decodeHeader ticks).take i))
          ∃ out, outs[i]? = some out ∧ (consensusObservation (shardKey s) out).1 = some !alert ∧
            ((∃ a, .notify a ∈ (consensusObservation (shardKey s) out).2) ↔ alert)

theorem consensusRun_not_highestBlockRule :
    ¬ HighestBlockRule Linq.Query.reference (fun _ => RangeOrder.insertion) decodeStuck 30 "" [] := by
  intro hrule
  obtain ⟨outs, hrun, hobs⟩ := consensusSteps_observe Linq.Query.reference_documented 30 ""
    (headerTicks decodeStuck stuckReplies) (fun _ => RangeOrder.insertion) .init
  rw [← consensusRun_eq_consensusSteps] at hrun
  obtain ⟨out, hout, hstatus, -⟩ := hrule stuckReplies (by decide) 0
    (by decide +kernel) outs hrun 2 110000000000 [⟨leaderHeader 5 50, "10.0.0.2:9500"⟩] ⟨leaderHeader 5 50, "10.0.0.2:9500"⟩
    (by decide +kernel) (by decide +kernel)
  have hcode : (outs.map (consensusObservation (shardKey 0)))[2]? =
      (shardRun 30 "" 0 none none (headerTicks decodeStuck stuckReplies))[2]? := by
    rw [hobs 0]
    rfl
  rw [List.getElem?_map, hout] at hcode
  have hfalse : (shardRun 30 "" 0 none none
      (headerTicks decodeStuck stuckReplies))[2]?.map Prod.fst =
      some (some false) := by
    decide +kernel
  have hrule3 : highestBlockAlert 30 110000000000 (⟨leaderHeader 5 50, "10.0.0.2:9500"⟩ : BlockHeader).Payload.BlockNumber
      (highestRecord 0 ((headerTicks decodeStuck stuckReplies).take 2)) =
        false := by
    decide +kernel
  rw [← hcode] at hfalse
  simp only [Option.map_some, Option.some.injEq] at hfalse
  rw [hstatus, hrule3] at hfalse
  simp at hfalse

end Tick

end Watchdog
