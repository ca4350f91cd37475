import Mathlib
import Watchdog.Model.Rpc
import Watchdog.Foundations.GoMap
import Watchdog.Foundations.FirstMax

namespace Watchdog

open GoNumeric
open GoMap (RangeOrder set)

structure ProcessedCrossLink where
  BlockNum : Int64
  CrossLink : CrossLink
  TS : Int
  deriving DecidableEq, Repr

structure CrossLinkAlert where
  incidentKey : String
  crossLink : CrossLink
  elapsedTime : Int
  deriving DecidableEq, Repr

def crossLinkIncidentKey (chain : String) (shard : Int64) : String :=
  "Chain: " ++ chain ++ ", Shard " ++ toString shard.toInt ++ ", CrossLinkMonitor"

def crossLinkStep (warning : UInt64) (chain : String) (now : Int)
    (acc : List (Int64 × ProcessedCrossLink) × List CrossLinkAlert) (result : CrossLink) :
    List (Int64 × ProcessedCrossLink) × List CrossLinkAlert :=
  let (lastProcessed, alerts) := acc
  let recorded := (set lastProcessed result.ShardID ⟨result.BlockNumber, result, now⟩, alerts)
  match lastProcessed.lookup result.ShardID with
  | some entry =>
    let elapsedTime := timeSub now entry.TS
    if result.BlockNumber ≤ entry.BlockNum then
      if warning ≤ floatToUInt64 (seconds elapsedTime) then
        (lastProcessed, alerts ++ [⟨crossLinkIncidentKey chain result.ShardID, result, elapsedTime⟩])
      else (lastProcessed, alerts)
    else recorded
  | none => recorded

def crossLinkRound (warning : UInt64) (chain : String) (now : Int) (crossLinks : List CrossLink)
    (lastProcessed : List (Int64 × ProcessedCrossLink)) :
    List (Int64 × ProcessedCrossLink) × List CrossLinkAlert :=
  crossLinks.foldl (crossLinkStep warning chain now) (lastProcessed, [])

def crossLinkLeaders (decodeMetadata : Bytes → NodeMetadataReply) (replies : List Reply) : List String :=
  replies.foldl (fun leader d =>
    match d.oops with
    | none =>
      let oneReport := decodeMetadata d.rpcResult
      if oneReport.IsLeader ∧ oneReport.ShardID = 0 then leader ++ [d.address] else leader
    | some _ => leader) []

def crossLinkReplies (decodeCrossLinks : Bytes → List CrossLink) : List Reply → List CrossLink
  | [] => []
  | i :: rest =>
    match i.oops with
    | none => decodeCrossLinks i.rpcResult
    | some _ => crossLinkReplies decodeCrossLinks rest

structure CrossLinkTick where
  metadataJobs : List String
  crossLinkJobs : List String
  lastProcessed : List (Int64 × ProcessedCrossLink)
  alerts : List CrossLinkAlert
  LastCrossLinks : List CrossLink

def crossLinkTick (ord : RangeOrder) (decodeMetadata : Bytes → NodeMetadataReply)
    (decodeCrossLinks : Bytes → List CrossLink) (warning : UInt64) (chain : String)
    (shardMap : List (String × Int64)) (now : Int) (metadataReplies linkReplies : List Reply)
    (lastProcessed : List (Int64 × ProcessedCrossLink)) : CrossLinkTick :=
  let crossLinks := crossLinkReplies decodeCrossLinks linkReplies
  let out := crossLinkRound warning chain now crossLinks lastProcessed
  ⟨(ord.arrange shardMap).filterMap (fun kv => if kv.2 = 0 then some kv.1 else none),
    crossLinkLeaders decodeMetadata metadataReplies, out.1, out.2, crossLinks⟩

def crossLinkTicks (ord : Nat → RangeOrder) (decodeMetadata : Bytes → NodeMetadataReply)
    (decodeCrossLinks : Bytes → List CrossLink) (warning : UInt64) (chain : String)
    (shardMap : List (String × Int64)) :
    List (Int64 × ProcessedCrossLink) → List (Int × List Reply × List Reply) → List CrossLinkTick
  | _, [] => []
  | lastProcessed, (now, metadataReplies, linkReplies) :: ticks =>
    let out := crossLinkTick (ord 0) decodeMetadata decodeCrossLinks warning chain shardMap now metadataReplies
      linkReplies lastProcessed
    out :: crossLinkTicks (fun i => ord (i + 1)) decodeMetadata decodeCrossLinks warning chain shardMap
      out.lastProcessed ticks

def crossLinkRun (warning : UInt64) (chain : String) :
    List (Int64 × ProcessedCrossLink) → List (Int × List CrossLink) →
      List (List (Int64 × ProcessedCrossLink) × List CrossLinkAlert)
  | _, [] => []
  | lastProcessed, (now, crossLinks) :: ticks =>
    let out := crossLinkRound warning chain now crossLinks lastProcessed
    out :: crossLinkRun warning chain out.1 ticks

def reportsOf (ticks : List (Int × List CrossLink)) : List (Int × CrossLink) :=
  ticks.flatMap fun tick => tick.2.map fun c => (tick.1, c)

def reportedNumber (e : Int × CrossLink) : Int := e.2.BlockNumber.toInt

def firstMaxReport (s : Int64) (reports : List (Int × CrossLink)) : Option ProcessedCrossLink :=
  (FirstMax.firstMax reportedNumber (reports.filter fun e => e.2.ShardID = s)).map
    fun e => ⟨e.2.BlockNumber, e.2, e.1⟩

def expectedAlert (warning : UInt64) (chain : String) (past : List (Int × CrossLink)) (now : Int)
    (c : CrossLink) : List CrossLinkAlert :=
  match firstMaxReport c.ShardID past with
  | some e =>
    if c.BlockNumber.toInt ≤ e.BlockNum.toInt ∧ warning.toNat ≤ (timeSub now e.TS / second).toNat then
      [⟨crossLinkIncidentKey chain c.ShardID, c, timeSub now e.TS⟩]
    else []
  | none => []

def expectedAlerts (warning : UInt64) (chain : String) :
    List (Int × CrossLink) → List (Int × CrossLink) → List CrossLinkAlert
  | _, [] => []
  | past, (now, c) :: rest =>
    expectedAlert warning chain past now c ++ expectedAlerts warning chain (past ++ [(now, c)]) rest

section Step

variable {warning : UInt64} {chain : String} {now : Int} {lastProcessed : List (Int64 × ProcessedCrossLink)}
  {alerts : List CrossLinkAlert} {c : CrossLink}

theorem crossLinkStep_of_none (h : lastProcessed.lookup c.ShardID = none) :
    crossLinkStep warning chain now (lastProcessed, alerts) c =
      (set lastProcessed c.ShardID ⟨c.BlockNumber, c, now⟩, alerts) := by
  simp [crossLinkStep, h]

theorem crossLinkStep_of_gt {e : ProcessedCrossLink} (h : lastProcessed.lookup c.ShardID = some e)
    (hc : ¬ c.BlockNumber ≤ e.BlockNum) :
    crossLinkStep warning chain now (lastProcessed, alerts) c =
      (set lastProcessed c.ShardID ⟨c.BlockNumber, c, now⟩, alerts) := by
  simp [crossLinkStep, h, hc]

theorem crossLinkStep_of_le {e : ProcessedCrossLink} (h : lastProcessed.lookup c.ShardID = some e)
    (hc : c.BlockNumber ≤ e.BlockNum) :
    crossLinkStep warning chain now (lastProcessed, alerts) c =
      (lastProcessed, alerts ++ if warning ≤ floatToUInt64 (seconds (timeSub now e.TS)) then
        [⟨crossLinkIncidentKey chain c.ShardID, c, timeSub now e.TS⟩] else []) := by
  by_cases hw : warning ≤ floatToUInt64 (seconds (timeSub now e.TS)) <;> simp [crossLinkStep, h, hc, hw]

end Step

section Spec

variable (warning : UInt64) (chain : String)

theorem firstMaxReport_append_of_ne (s : Int64) (past : List (Int × CrossLink)) (now : Int)
    {c : CrossLink} (hs : c.ShardID ≠ s) :
    firstMaxReport s (past ++ [(now, c)]) = firstMaxReport s past := by
  simp [firstMaxReport, List.filter_append, hs]

theorem firstMaxReport_append_self (past : List (Int × CrossLink)) (now : Int) (c : CrossLink) :
    firstMaxReport c.ShardID (past ++ [(now, c)]) =
      (FirstMax.keep reportedNumber
        (FirstMax.firstMax reportedNumber (past.filter fun e => e.2.ShardID = c.ShardID)) (now, c)).map
        fun e => ⟨e.2.BlockNumber, e.2, e.1⟩ := by
  simp only [firstMaxReport, List.filter_append]
  rw [show [(now, c)].filter (fun e : Int × CrossLink => e.2.ShardID = c.ShardID) = [(now, c)] by simp,
    FirstMax.firstMax_append_singleton]

theorem crossLinkStep_spec (hw : warning.toNat ≤ 2 ^ 24) {lastProcessed : List (Int64 × ProcessedCrossLink)}
    {past : List (Int × CrossLink)} (hinv : ∀ s, lastProcessed.lookup s = firstMaxReport s past)
    {now : Int} (hpast : ∀ e ∈ past, e.1 ≤ now) (c : CrossLink) (alerts : List CrossLinkAlert) :
    (∀ s, (crossLinkStep warning chain now (lastProcessed, alerts) c).1.lookup s =
      firstMaxReport s (past ++ [(now, c)])) ∧
    (crossLinkStep warning chain now (lastProcessed, alerts) c).2 =
      alerts ++ expectedAlert warning chain past now c := by
  have hself := firstMaxReport_append_self past now c
  have hset : ∀ p, firstMaxReport c.ShardID (past ++ [(now, c)]) = some p →
      ∀ s, (set lastProcessed c.ShardID p).lookup s = firstMaxReport s (past ++ [(now, c)]) := by
    intro p hp s
    by_cases hs : s = c.ShardID
    · rw [hs, GoMap.lookup_set_self, hp]
    · rw [GoMap.lookup_set_of_ne _ hs, hinv, firstMaxReport_append_of_ne s past now (Ne.symm hs)]
  cases hbest : FirstMax.firstMax reportedNumber (past.filter fun e => e.2.ShardID = c.ShardID) with
  | none =>
    have hlook : lastProcessed.lookup c.ShardID = none := by
      rw [hinv, firstMaxReport, hbest, Option.map_none]
    rw [crossLinkStep_of_none hlook]
    refine ⟨hset _ (by rw [hself, hbest]; rfl), ?_⟩
    simp [expectedAlert, firstMaxReport, hbest]
  | some b =>
    have hlook : lastProcessed.lookup c.ShardID = some ⟨b.2.BlockNumber, b.2, b.1⟩ := by
      rw [hinv, firstMaxReport, hbest, Option.map_some]
    have hle : c.BlockNumber ≤ b.2.BlockNumber ↔ reportedNumber (now, c) ≤ reportedNumber b :=
      Int64.le_iff_toInt_le
    have hexp : expectedAlert warning chain past now c =
        if c.BlockNumber.toInt ≤ b.2.BlockNumber.toInt ∧
            warning.toNat ≤ (timeSub now b.1 / second).toNat then
          [⟨crossLinkIncidentKey chain c.ShardID, c, timeSub now b.1⟩]
        else [] := by
      simp [expectedAlert, firstMaxReport, hbest]
    by_cases hc : c.BlockNumber ≤ b.2.BlockNumber
    · have hkeep : FirstMax.keep reportedNumber (some b) (now, c) = some b := by
        simp [FirstMax.keep, hle.mp hc]
      have hc' : c.BlockNumber.toInt ≤ b.2.BlockNumber.toInt := hle.mp hc
      have hb : b ∈ past := (List.mem_filter.mp (FirstMax.mem_of_firstMax reportedNumber hbest).1).1
      have htest : warning ≤ floatToUInt64 (seconds (timeSub now b.1)) ↔
          warning.toNat ≤ (timeSub now b.1 / second).toNat :=
        le_floatToUInt64_seconds_iff hw (timeSub_nonneg now b.1 (hpast b hb)) (timeSub_le now b.1)
      rw [crossLinkStep_of_le hlook hc, hexp]
      refine ⟨fun s => ?_, ?_⟩
      · by_cases hs : s = c.ShardID
        · rw [hs, hself, hbest, hkeep, hlook]
          rfl
        · rw [firstMaxReport_append_of_ne s past now (Ne.symm hs), hinv]
      · by_cases hw' : warning.toNat ≤ (timeSub now b.1 / second).toNat
        · rw [if_pos (htest.mpr hw'), if_pos ⟨hc', hw'⟩]
        · rw [if_neg fun h => hw' (htest.mp h), if_neg fun h => hw' h.2]
    · have hkeep : FirstMax.keep reportedNumber (some b) (now, c) = some (now, c) := by
        rw [FirstMax.keep, if_neg fun h => hc (hle.mpr h)]
      rw [crossLinkStep_of_gt hlook hc, hexp]
      refine ⟨hset _ (by rw [hself, hbest, hkeep]; rfl), ?_⟩
      rw [if_neg fun h => hc (hle.mpr h.1), List.append_nil]

theorem crossLinkRound_spec (hw : warning.toNat ≤ 2 ^ 24) (now : Int) :
    ∀ (crossLinks : List CrossLink) (past : List (Int × CrossLink))
      (lastProcessed : List (Int64 × ProcessedCrossLink)) (alerts : List CrossLinkAlert),
      (∀ s, lastProcessed.lookup s = firstMaxReport s past) → (∀ e ∈ past, e.1 ≤ now) →
        (∀ s, (crossLinks.foldl (crossLinkStep warning chain now) (lastProcessed, alerts)).1.lookup s =
          firstMaxReport s (past ++ crossLinks.map fun c => (now, c))) ∧
        (crossLinks.foldl (crossLinkStep warning chain now) (lastProcessed, alerts)).2 =
          alerts ++ expectedAlerts warning chain past (crossLinks.map fun c => (now, c)) := by
  intro crossLinks
  induction crossLinks with
  | nil => intro past _ _ hinv _; simpa [expectedAlerts] using hinv
  | cons c crossLinks ih =>
    intro past lastProcessed alerts hinv hpast
    obtain ⟨hinv', halerts⟩ := crossLinkStep_spec warning chain hw hinv hpast c alerts
    have hpast' : ∀ e ∈ past ++ [(now, c)], e.1 ≤ now := by
      intro e he
      rcases List.mem_append.mp he with he | he
      · exact hpast e he
      · rw [List.mem_singleton.mp he]
    rw [List.foldl_cons, ← Prod.mk.eta (p := crossLinkStep warning chain now (lastProcessed, alerts) c)]
    obtain ⟨hlook, hrest⟩ := ih (past ++ [(now, c)]) _ _ hinv' hpast'
    refine ⟨fun s => by rw [hlook s]; simp, ?_⟩
    rw [hrest, halerts, List.map_cons, expectedAlerts, List.append_assoc]

theorem length_crossLinkRun :
    ∀ (lastProcessed : List (Int64 × ProcessedCrossLink)) (ticks : List (Int × List CrossLink)),
      (crossLinkRun warning chain lastProcessed ticks).length = ticks.length
  | _, [] => rfl
  | _, _ :: ticks => by
    rw [crossLinkRun, List.length_cons, List.length_cons, length_crossLinkRun _ ticks]

theorem crossLinkRun_spec (hw : warning.toNat ≤ 2 ^ 24) :
    ∀ (ticks : List (Int × List CrossLink)) (past : List (Int × CrossLink))
      (lastProcessed : List (Int64 × ProcessedCrossLink)),
      ticks.Pairwise (fun a b => a.1 < b.1) → (∀ e ∈ past, ∀ t ∈ ticks, e.1 ≤ t.1) →
      (∀ s, lastProcessed.lookup s = firstMaxReport s past) →
      ∀ i out, (crossLinkRun warning chain lastProcessed ticks)[i]? = some out →
        ∃ now crossLinks, ticks[i]? = some (now, crossLinks) ∧
          (∀ s, out.1.lookup s = firstMaxReport s (past ++ reportsOf (ticks.take (i + 1)))) ∧
          out.2 = expectedAlerts warning chain (past ++ reportsOf (ticks.take i))
            (crossLinks.map fun c => (now, c)) := by
  intro ticks
  induction ticks with
  | nil => intro _ _ _ _ _ i out h; simp [crossLinkRun] at h
  | cons tick ticks ih =>
    intro past lastProcessed hinc hpast hinv i out hout
    obtain ⟨now, crossLinks⟩ := tick
    obtain ⟨hlater, hinc'⟩ := List.pairwise_cons.mp hinc
    obtain ⟨hlook, halerts⟩ := crossLinkRound_spec warning chain hw now crossLinks past lastProcessed [] hinv
      fun e he => hpast e he _ List.mem_cons_self
    cases i with
    | zero =>
      obtain rfl : crossLinkRound warning chain now crossLinks lastProcessed = out := by
        simpa [crossLinkRun] using hout
      exact ⟨now, crossLinks, rfl, fun s => by simpa [reportsOf, crossLinkRound] using hlook s,
        by simpa [reportsOf, crossLinkRound] using halerts⟩
    | succ i =>
      have hout' : (crossLinkRun warning chain
          (crossLinkRound warning chain now crossLinks lastProcessed).1 ticks)[i]? = some out := by
        simpa [crossLinkRun] using hout
      have hpast' : ∀ e ∈ past ++ crossLinks.map (fun c => (now, c)), ∀ t ∈ ticks, e.1 ≤ t.1 := by
        intro e he t ht
        rcases List.mem_append.mp he with he | he
        · exact hpast e he t (List.mem_cons_of_mem _ ht)
        · obtain ⟨c, -, rfl⟩ := List.mem_map.mp he
          exact (hlater t ht).le
      obtain ⟨now', crossLinks', htick, hl, ha⟩ :=
        ih (past ++ crossLinks.map fun c => (now, c)) _ hinc' hpast' hlook i out hout'
      refine ⟨now', crossLinks', by simpa using htick, fun s => ?_, ?_⟩
      · rw [hl s]
        simp [reportsOf, List.take_succ_cons]
      · rw [ha]
        simp [reportsOf, List.take_succ_cons]

theorem expectedAlerts_elapsed_nonneg (now : Int) :
    ∀ (crossLinks : List CrossLink) (past : List (Int × CrossLink)), (∀ e ∈ past, e.1 ≤ now) →
      ∀ a ∈ expectedAlerts warning chain past (crossLinks.map fun c => (now, c)), 0 ≤ a.elapsedTime := by
  intro crossLinks
  induction crossLinks with
  | nil => intro _ _ a ha; simp [expectedAlerts] at ha
  | cons c crossLinks ih =>
    intro past hpast a ha
    rw [List.map_cons, expectedAlerts, List.mem_append] at ha
    rcases ha with ha | ha
    · unfold expectedAlert firstMaxReport at ha
      cases hbest : FirstMax.firstMax reportedNumber (past.filter fun e => e.2.ShardID = c.ShardID) with
      | none => simp [hbest] at ha
      | some b =>
        have hb := List.mem_filter.mp (FirstMax.mem_of_firstMax reportedNumber hbest).1
        simp only [hbest, Option.map_some] at ha
        split at ha
        · rw [List.mem_singleton.mp ha]
          exact timeSub_nonneg now b.1 (hpast b hb.1)
        · cases ha
    · refine ih (past ++ [(now, c)]) (fun e he => ?_) a ha
      rcases List.mem_append.mp he with he | he
      · exact hpast e he
      · rw [List.mem_singleton.mp he]

theorem firstMaxReport_append_le {s : Int64} {past : List (Int × CrossLink)} {e : ProcessedCrossLink}
    (h : firstMaxReport s past = some e) (later : List (Int × CrossLink)) :
    ∃ e', firstMaxReport s (past ++ later) = some e' ∧ e.BlockNum.toInt ≤ e'.BlockNum.toInt := by
  unfold firstMaxReport at h ⊢
  obtain ⟨b, hb, rfl⟩ := Option.map_eq_some_iff.mp h
  obtain ⟨b', hb', hle⟩ := FirstMax.firstMax_append_le reportedNumber hb
    (later.filter fun e => e.2.ShardID = s)
  exact ⟨⟨b'.2.BlockNumber, b'.2, b'.1⟩, by rw [List.filter_append, hb', Option.map_some], hle⟩

end Spec

theorem reportsOf_take_time_lt {ticks : List (Int × List CrossLink)}
    (hinc : ticks.Pairwise fun a b => a.1 < b.1) {i : Nat} {now : Int} {crossLinks : List CrossLink}
    (htick : ticks[i]? = some (now, crossLinks)) : ∀ e ∈ reportsOf (ticks.take i), e.1 < now := by
  intro e he
  obtain ⟨t, ht, he⟩ := List.mem_flatMap.mp he
  obtain ⟨c, -, rfl⟩ := List.mem_map.mp he
  have hdrop : (now, crossLinks) ∈ ticks.drop i :=
    List.mem_iff_getElem?.mpr ⟨0, by rw [List.getElem?_drop, Nat.add_zero, htick]⟩
  have hsplit := List.pairwise_append.mp ((List.take_append_drop i ticks).symm ▸ hinc)
  exact hsplit.2.2 t ht _ hdrop

theorem crossLinkRun_lastProcessed (warning : UInt64) (chain : String) (hw : warning.toNat ≤ 2 ^ 24)
    (ticks : List (Int × List CrossLink)) (hinc : ticks.Pairwise fun a b => a.1 < b.1) :
    (crossLinkRun warning chain [] ticks).length = ticks.length ∧
    ∀ i out, (crossLinkRun warning chain [] ticks)[i]? = some out → ∃ now crossLinks, ticks[i]? = some (now, crossLinks) ∧
      (∀ s, out.1.lookup s = firstMaxReport s (reportsOf (ticks.take (i + 1)))) ∧
      (∀ j outj, j ≤ i → (crossLinkRun warning chain [] ticks)[j]? = some outj →
        ∀ s e, outj.1.lookup s = some e →
          ∃ e', out.1.lookup s = some e' ∧ e.BlockNum.toInt ≤ e'.BlockNum.toInt) ∧
      out.2 = expectedAlerts warning chain (reportsOf (ticks.take i)) (crossLinks.map fun c => (now, c)) ∧
      ∀ a ∈ out.2, 0 ≤ a.elapsedTime := by
  refine ⟨length_crossLinkRun warning chain [] ticks, fun i out hout => ?_⟩
  have hinit : ∀ s, ([] : List (Int64 × ProcessedCrossLink)).lookup s = firstMaxReport s [] :=
    fun _ => rfl
  have hnil : ∀ e ∈ ([] : List (Int × CrossLink)), ∀ t ∈ ticks, e.1 ≤ t.1 := fun _ he => absurd he List.not_mem_nil
  obtain ⟨now, crossLinks, htick, hlook, halerts⟩ :=
    crossLinkRun_spec warning chain hw ticks [] [] hinc hnil hinit i out hout
  simp only [List.nil_append] at hlook halerts
  refine ⟨now, crossLinks, htick, hlook, fun j outj hj houtj s e he => ?_, halerts, fun a ha => ?_⟩
  · obtain ⟨-, -, -, hlookj, -⟩ := crossLinkRun_spec warning chain hw ticks [] [] hinc hnil hinit j outj houtj
    rw [hlookj s, List.nil_append] at he
    have hprefix : ticks.take (i + 1) = ticks.take (j + 1) ++ (ticks.drop (j + 1)).take (i - j) := by
      rw [← List.take_add]
      congr 1
      omega
    obtain ⟨e', he', hle⟩ := firstMaxReport_append_le he (reportsOf ((ticks.drop (j + 1)).take (i - j)))
    refine ⟨e', ?_, hle⟩
    rw [hlook s, hprefix, reportsOf, List.flatMap_append]
    exact he'
  · rw [halerts] at ha
    refine expectedAlerts_elapsed_nonneg warning chain now crossLinks _ (fun e he => ?_) a ha
    exact le_of_lt (reportsOf_take_time_lt hinc htick e he)

section Ticks

variable (decodeMetadata : Bytes → NodeMetadataReply) (decodeCrossLinks : Bytes → List CrossLink)
  (warning : UInt64) (chain : String) (shardMap : List (String × Int64))

theorem crossLinkReplies_eq (replies : List Reply) :
    crossLinkReplies decodeCrossLinks replies =
      ((replies.find? fun i => i.oops = none).map fun i => decodeCrossLinks i.rpcResult).getD [] := by
  induction replies with
  | nil => rfl
  | cons i rest ih =>
    cases h : i.oops with
    | none => simp [crossLinkReplies, h]
    | some e => simp [crossLinkReplies, h, ih]

theorem crossLinkLeaders_eq (replies : List Reply) :
    crossLinkLeaders decodeMetadata replies =
      replies.filterMap fun d => if d.oops = none ∧ (decodeMetadata d.rpcResult).IsLeader ∧
        (decodeMetadata d.rpcResult).ShardID = 0 then some d.address else none := by
  have hstep : ∀ (leader : List String) (rs : List Reply), rs.foldl (fun leader d =>
      match d.oops with
      | none =>
        if (decodeMetadata d.rpcResult).IsLeader ∧ (decodeMetadata d.rpcResult).ShardID = 0 then
          leader ++ [d.address] else leader
      | some _ => leader) leader =
      leader ++ rs.filterMap fun d => if d.oops = none ∧ (decodeMetadata d.rpcResult).IsLeader ∧
        (decodeMetadata d.rpcResult).ShardID = 0 then some d.address else none := by
    intro leader rs
    induction rs generalizing leader with
    | nil => simp
    | cons d rs ih =>
      rw [List.foldl_cons, ih]
      cases h : d.oops with
      | none =>
        by_cases hl : (decodeMetadata d.rpcResult).IsLeader ∧ (decodeMetadata d.rpcResult).ShardID = 0 <;>
          simp [h, hl]
      | some e => simp [h]
  exact hstep [] replies

theorem crossLinkTicks_run :
    ∀ (ord : Nat → RangeOrder) (ticks : List (Int × List Reply × List Reply))
      (lastProcessed : List (Int64 × ProcessedCrossLink)),
      (crossLinkTicks ord decodeMetadata decodeCrossLinks warning chain shardMap lastProcessed ticks).map
          (fun t => (t.lastProcessed, t.alerts)) =
        crossLinkRun warning chain lastProcessed (ticks.map fun t => (t.1, crossLinkReplies decodeCrossLinks t.2.2))
  | _, [], _ => rfl
  | ord, (now, metadataReplies, linkReplies) :: ticks, lastProcessed => by
    simp only [crossLinkTicks, crossLinkRun, List.map_cons, crossLinkTick]
    rw [crossLinkTicks_run _ ticks]

theorem getElem?_crossLinkTicks :
    ∀ (ord : Nat → RangeOrder) (ticks : List (Int × List Reply × List Reply))
      (lastProcessed : List (Int64 × ProcessedCrossLink)) (i : Nat) (out : CrossLinkTick),
      (crossLinkTicks ord decodeMetadata decodeCrossLinks warning chain shardMap lastProcessed ticks)[i]? = some out →
        ∃ now metadataReplies linkReplies lp, ticks[i]? = some (now, metadataReplies, linkReplies) ∧
          out = crossLinkTick (ord i) decodeMetadata decodeCrossLinks warning chain shardMap now metadataReplies
            linkReplies lp
  | _, [], _, _, _, h => by simp [crossLinkTicks] at h
  | ord, (now, metadataReplies, linkReplies) :: ticks, lastProcessed, i, out, h => by
    cases i with
    | zero =>
      simp only [crossLinkTicks, List.getElem?_cons_zero, Option.some.injEq] at h
      exact ⟨now, metadataReplies, linkReplies, lastProcessed, rfl, h.symm⟩
    | succ i =>
      simp only [crossLinkTicks, List.getElem?_cons_succ] at h
      obtain ⟨now', md, lr, lp, htick, rfl⟩ := getElem?_crossLinkTicks _ ticks _ i out h
      exact ⟨now', md, lr, lp, by simpa using htick, rfl⟩

theorem crossLinkTicks_spec (hw : warning.toNat ≤ 2 ^ 24) (ord : Nat → RangeOrder)
    (ticks : List (Int × List Reply × List Reply)) (hinc : ticks.Pairwise fun a b => a.1 < b.1) :
    (crossLinkTicks ord decodeMetadata decodeCrossLinks warning chain shardMap [] ticks).length = ticks.length ∧
    ∀ i out, (crossLinkTicks ord decodeMetadata decodeCrossLinks warning chain shardMap [] ticks)[i]? = some out →
      ∃ now metadataReplies linkReplies, ticks[i]? = some (now, metadataReplies, linkReplies) ∧
        out.crossLinkJobs = metadataReplies.filterMap (fun d => if d.oops = none ∧
          (decodeMetadata d.rpcResult).IsLeader ∧ (decodeMetadata d.rpcResult).ShardID = 0 then some d.address
          else none) ∧
        out.LastCrossLinks =
          ((linkReplies.find? fun d => d.oops = none).map fun d => decodeCrossLinks d.rpcResult).getD [] ∧
        (∀ s, out.lastProcessed.lookup s = firstMaxReport s
          (reportsOf ((ticks.map fun t => (t.1, crossLinkReplies decodeCrossLinks t.2.2)).take (i + 1)))) ∧
        out.alerts = expectedAlerts warning chain
          (reportsOf ((ticks.map fun t => (t.1, crossLinkReplies decodeCrossLinks t.2.2)).take i))
          (out.LastCrossLinks.map fun c => (now, c)) := by
  have hrun := crossLinkTicks_run decodeMetadata decodeCrossLinks warning chain shardMap ord ticks []
  have hlen := congrArg List.length hrun
  rw [List.length_map, length_crossLinkRun, List.length_map] at hlen
  refine ⟨hlen, fun i out hout => ?_⟩
  obtain ⟨now, md, lr, lp, htick, rfl⟩ :=
    getElem?_crossLinkTicks decodeMetadata decodeCrossLinks warning chain shardMap ord ticks [] i _ hout
  have hpub : (crossLinkRun warning chain [] (ticks.map fun t => (t.1, crossLinkReplies decodeCrossLinks t.2.2)))[i]? =
      some ((crossLinkTick (ord i) decodeMetadata decodeCrossLinks warning chain shardMap now md lr lp).lastProcessed,
        (crossLinkTick (ord i) decodeMetadata decodeCrossLinks warning chain shardMap now md lr lp).alerts) := by
    rw [← hrun, List.getElem?_map, hout]
    rfl
  have hinc' : (ticks.map fun t => (t.1, crossLinkReplies decodeCrossLinks t.2.2)).Pairwise
      fun a b => a.1 < b.1 := List.pairwise_map.mpr hinc
  obtain ⟨now', crossLinks, htick', hlook, halerts⟩ := crossLinkRun_spec warning chain hw _ [] [] hinc'
    (fun _ he => absurd he List.not_mem_nil) (fun _ => rfl) i _ hpub
  rw [List.getElem?_map, htick] at htick'
  obtain ⟨rfl, rfl⟩ : now = now' ∧ crossLinkReplies decodeCrossLinks lr = crossLinks := by simpa using htick'
  refine ⟨now, md, lr, htick, crossLinkLeaders_eq decodeMetadata md, crossLinkReplies_eq decodeCrossLinks lr,
    fun s => by simpa using hlook s, halerts⟩

end Ticks

def leaderMetadata : NodeMetadataReply :=
  ⟨[], "v1", "mainnet", true, 0, "Validator", 16384, "t.hmny.io", false, ⟨1, 2, 2, 0, 185, 0, 186⟩⟩

def decodeLinks (b : Bytes) : List CrossLink := if b = [1] then [⟨"0x51", 5, "sig", "ff", 1, 2⟩] else []

def leaderTicks : List (Int × List Reply × List Reply) :=
  [(1000000000000,
    [⟨"10.0.0.1:9500", NodeMetadataRPC, [], [], none⟩, ⟨"10.0.0.2:9500", NodeMetadataRPC, [], [], none⟩,
      ⟨"10.0.0.3:9500", NodeMetadataRPC, [], [], some "timeout"⟩],
    [⟨"10.0.0.2:9500", LastCrossLinkRPC, [], [], some "connection refused"⟩,
      ⟨"10.0.0.1:9500", LastCrossLinkRPC, [], [1], none⟩])]

theorem crossLinkTicks_spec_leaderTicks :
    (600 : UInt64).toNat ≤ 2 ^ 24 ∧ leaderTicks.Pairwise (fun a b => a.1 < b.1) ∧
    (crossLinkTicks (fun _ => .insertion) (fun _ => leaderMetadata) decodeLinks 600 "mainnet"
      [("10.0.0.1:9500", 0), ("10.0.0.2:9500", 0), ("10.0.0.3:9500", 0)] [] leaderTicks).length = leaderTicks.length ∧
    ∀ i out, (crossLinkTicks (fun _ => .insertion) (fun _ => leaderMetadata) decodeLinks 600 "mainnet"
        [("10.0.0.1:9500", 0), ("10.0.0.2:9500", 0), ("10.0.0.3:9500", 0)] [] leaderTicks)[i]? = some out →
      ∃ now metadataReplies linkReplies, leaderTicks[i]? = some (now, metadataReplies, linkReplies) ∧
        out.crossLinkJobs = metadataReplies.filterMap (fun d => if d.oops = none ∧
          (leaderMetadata).IsLeader ∧ (leaderMetadata).ShardID = 0 then some d.address else none) ∧
        out.LastCrossLinks =
          ((linkReplies.find? fun d => d.oops = none).map fun d => decodeLinks d.rpcResult).getD [] ∧
        (∀ s, out.lastProcessed.lookup s = firstMaxReport s
          (reportsOf ((leaderTicks.map fun t => (t.1, crossLinkReplies decodeLinks t.2.2)).take (i + 1)))) ∧
        out.alerts = expectedAlerts 600 "mainnet"
          (reportsOf ((leaderTicks.map fun t => (t.1, crossLinkReplies decodeLinks t.2.2)).take i))
          (out.LastCrossLinks.map fun c => (now, c)) :=
  ⟨by decide, by decide, crossLinkTicks_spec (fun _ => leaderMetadata) decodeLinks 600 "mainnet"
    [("10.0.0.1:9500", 0), ("10.0.0.2:9500", 0), ("10.0.0.3:9500", 0)] (by decide) (fun _ => .insertion)
    leaderTicks (by decide)⟩

def staleCrossLinks : List (Int × List CrossLink) :=
  [(1000000000000, [⟨"0x51", 5, "sig", "ff", 1, 2⟩]),
   (1700000000000, [⟨"0x51", 5, "sig", "ff", 1, 2⟩, ⟨"0x61", 6, "sig", "ff", 1, 2⟩])]

theorem crossLinkRun_lastProcessed_stale :
    (600 : UInt64).toNat ≤ 2 ^ 24 ∧ staleCrossLinks.Pairwise (fun a b => a.1 < b.1) ∧
    (crossLinkRun 600 "mainnet" [] staleCrossLinks).length = staleCrossLinks.length ∧
    ∀ i out, (crossLinkRun 600 "mainnet" [] staleCrossLinks)[i]? = some out → ∃ now crossLinks,
      staleCrossLinks[i]? = some (now, crossLinks) ∧
      (∀ s, out.1.lookup s = firstMaxReport s (reportsOf (staleCrossLinks.take (i + 1)))) ∧
      (∀ j outj, j ≤ i → (crossLinkRun 600 "mainnet" [] staleCrossLinks)[j]? = some outj →
        ∀ s e, outj.1.lookup s = some e →
          ∃ e', out.1.lookup s = some e' ∧ e.BlockNum.toInt ≤ e'.BlockNum.toInt) ∧
      out.2 = expectedAlerts 600 "mainnet" (reportsOf (staleCrossLinks.take i))
        (crossLinks.map fun c => (now, c)) ∧
      ∀ a ∈ out.2, 0 ≤ a.elapsedTime :=
  ⟨by decide, by decide, crossLinkRun_lastProcessed 600 "mainnet" (by decide) staleCrossLinks (by decide)⟩

example : (crossLinkRun 600 "mainnet" [] staleCrossLinks).map (fun out => out.2.map (·.crossLink.Hash)) =
    [[], ["0x51"]] := by
  decide +kernel

def lateCrossLinks : List (Int × List CrossLink) :=
  [(0, [⟨"0x51", 5, "sig", "ff", 1, 2⟩]), (16777216999999999, [⟨"0x51", 5, "sig", "ff", 1, 2⟩])]

theorem crossLinkRun_alerts_early :
    lateCrossLinks.Pairwise (fun a b => a.1 < b.1) ∧
    (crossLinkRun 16777217 "mainnet" [] lateCrossLinks)[1]?.map Prod.snd =
      some [⟨crossLinkIncidentKey "mainnet" 1, ⟨"0x51", 5, "sig", "ff", 1, 2⟩, 16777216999999999⟩] ∧
    expectedAlerts 16777217 "mainnet" (reportsOf (lateCrossLinks.take 1))
      ([⟨"0x51", 5, "sig", "ff", 1, 2⟩].map fun c => (16777216999999999, c)) = [] :=
  ⟨by decide, by decide +kernel, by decide +kernel⟩

end Watchdog
