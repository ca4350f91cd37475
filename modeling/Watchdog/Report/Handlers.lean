import Mathlib
import Watchdog.Report.Summary
import Watchdog.Model.Monitor
import Watchdog.Foundations.GoStd
import Watchdog.Foundations.Interleaving

namespace Watchdog

open GoSlice (Panic sliceTo sliceFrom)

def blockHeaderReport : String := "block-header"
def nodeMetadataReport : String := "node-metadata"

def headerInformationCSVHeader : List String := ["IP", "Payload", "IP"]
def nodeMetadataCSVHeader : List String := ["IP", "Payload", "IP"]

structure Section (α : Type) where
  body : Monitor → Monitor × Except Panic α
  inUse_body : ∀ m, (body m).1.inUse = m.inUse

def Monitor.critical {α : Type} (m : Monitor) (s : Section α) : Option (Monitor × Except Panic α) :=
  if m.inUse then none
  else
    match s.body { m with inUse := true } with
    | (m', .ok a) => some ({ m' with inUse := false }, .ok a)
    | (m', .error p) => some (m', .error p)

section Critical

variable {α : Type} {m m' : Monitor} {s : Section α} {r : Except Panic α}

theorem Monitor.inUse_update_self {b : Bool} (h : m.inUse = b) : { m with inUse := b } = m := by
  cases m
  cases h
  rfl

theorem Section.inUse_locked (s : Section α) (m : Monitor) :
    (s.body { m with inUse := true }).1.inUse = true :=
  s.inUse_body _

theorem critical_eq_none_iff : m.critical s = none ↔ m.inUse = true := by
  unfold Monitor.critical
  cases hm : m.inUse with
  | true => simp
  | false =>
    simp only [Bool.false_eq_true, ↓reduceIte, iff_false]
    split <;> simp

theorem critical_eq_some_iff : m.critical s = some (m', r) ↔
    m.inUse = false ∧ (s.body { m with inUse := true }).2 = r ∧
      m' = { (s.body { m with inUse := true }).1 with inUse := !r.toBool } := by
  have hlocked := s.inUse_locked m
  unfold Monitor.critical
  cases hm : m.inUse with
  | true => simp
  | false =>
    simp only [Bool.false_eq_true, ↓reduceIte, true_and]
    split
    next m₁ a hb =>
      rw [hb]
      constructor
      · rintro ⟨⟩
        exact ⟨rfl, rfl⟩
      · rintro ⟨rfl, rfl⟩
        rfl
    next m₁ p hb =>
      rw [hb] at hlocked ⊢
      have hheld : { m₁ with inUse := true } = m₁ := Monitor.inUse_update_self hlocked
      constructor
      · rintro ⟨⟩
        exact ⟨rfl, hheld.symm⟩
      · rintro ⟨rfl, rfl⟩
        simp only [Except.toBool, Bool.not_false]
        rw [hheld]

theorem inUse_of_critical (h : m.critical s = some (m', r)) : m'.inUse = !r.toBool := by
  obtain ⟨-, -, rfl⟩ := critical_eq_some_iff.mp h
  rfl

theorem critical_released_iff (hm : m.inUse = false) :
    ∃ m' r, m.critical s = some (m', r) ∧
      (m'.inUse = false ↔ (s.body { m with inUse := true }).2.toBool = true) := by
  have hcrit : m.critical s = some (_, (s.body { m with inUse := true }).2) :=
    critical_eq_some_iff.mpr ⟨hm, rfl, rfl⟩
  refine ⟨_, _, hcrit, ?_⟩
  rw [inUse_of_critical hcrit]
  simp

theorem critical_of_body {a : α} (hm : m.inUse = false)
    (hb : s.body { m with inUse := true } = ({ m' with inUse := true }, .ok a)) (hm' : m'.inUse = false) :
    m.critical s = some (m', .ok a) := by
  refine critical_eq_some_iff.mpr ⟨hm, by rw [hb], ?_⟩
  rw [hb]
  exact (Monitor.inUse_update_self hm').symm

def Section.Safe (s : Section α) : Prop := ∀ m, (s.body m).2.toBool = true

theorem critical_of_safe (hs : s.Safe) (hm : m.inUse = false) :
    ∃ m' a, m.critical s = some (m', .ok a) ∧ m'.inUse = false := by
  have hok := hs { m with inUse := true }
  cases hb : (s.body { m with inUse := true }).2 with
  | error p =>
    rw [hb] at hok
    cases hok
  | ok a => exact ⟨_, a, critical_eq_some_iff.mpr ⟨hm, hb, rfl⟩, rfl⟩

end Critical

def shortenSig (s : Bytes) : Except Panic Bytes := do
  let head ← sliceTo s 5
  let tail ← sliceFrom s (s.length - 5)
  pure (head ++ [46, 46, 46] ++ tail)

def BlockHeader.withSig (n : BlockHeader) (sig : Bytes) : BlockHeader :=
  { n with Payload := { n.Payload with LastCommitSig := sig } }

def shortenCommitSigs : List BlockHeader → List BlockHeader × Option Panic
  | [] => ([], none)
  | n :: rest =>
    if 0 < n.Payload.LastCommitSig.length then
      match shortenSig n.Payload.LastCommitSig with
      | .error p => (n :: rest, some p)
      | .ok shorted => Prod.map (n.withSig shorted :: ·) id (shortenCommitSigs rest)
    else Prod.map (n :: ·) id (shortenCommitSigs rest)

section Shorten

variable {sig : Bytes} {n : BlockHeader} {hs : List BlockHeader}

def shortened (sig : Bytes) : Bytes := sig.take 5 ++ [46, 46, 46] ++ sig.drop (sig.length - 5)

def SigFits (sig : Bytes) : Prop := sig = [] ∨ 5 ≤ sig.length

instance : DecidablePred SigFits := fun _ => inferInstanceAs (Decidable (_ ∨ _))

def shortenHeader (n : BlockHeader) : BlockHeader :=
  if n.Payload.LastCommitSig = [] then n else n.withSig (shortened n.Payload.LastCommitSig)

theorem shortenHeader_shardID (n : BlockHeader) : (shortenHeader n).Payload.ShardID = n.Payload.ShardID := by
  unfold shortenHeader
  split_ifs <;> rfl

theorem shortenSig_of_lt (h : sig.length < 5) :
    shortenSig sig = .error (.sliceBounds 5 sig.length) := by
  have hslice : sliceTo sig 5 = .error (.sliceBounds 5 sig.length) := GoSlice.sliceTo_of_lt sig h
  simp only [shortenSig, hslice, GoStd.error_bind]

theorem shortenSig_of_le (h : 5 ≤ sig.length) : shortenSig sig = .ok (shortened sig) := by
  have htake : sliceTo sig 5 = .ok (sig.take 5) := GoSlice.sliceTo_of_le sig h
  have hdrop : sliceFrom sig (sig.length - 5 : Int) = .ok (sig.drop (sig.length - 5)) := by
    have hcast : ((sig.length - 5 : Nat) : Int) = sig.length - 5 := by omega
    rw [← hcast]
    exact GoSlice.sliceFrom_of_le sig (by omega)
  simp only [shortenSig, htake, hdrop]
  rfl

theorem length_shortened (h : 5 ≤ sig.length) : (shortened sig).length = 13 := by
  simp [shortened]
  omega

theorem shortened_shortened (h : 5 ≤ sig.length) : shortened (shortened sig) = shortened sig := by
  have hlen := length_shortened h
  rw [shortened, hlen]
  simp [shortened, List.drop_append, h]

theorem shortenCommitSigs_cons_of_fits (h : SigFits n.Payload.LastCommitSig) (rest : List BlockHeader) :
    shortenCommitSigs (n :: rest) = Prod.map (shortenHeader n :: ·) id (shortenCommitSigs rest) := by
  rcases h with h | h
  · simp [shortenCommitSigs, shortenHeader, h]
  · have hne : n.Payload.LastCommitSig ≠ [] := List.ne_nil_of_length_pos (by omega)
    simp [shortenCommitSigs, shortenHeader, shortenSig_of_le h, hne, show 0 < n.Payload.LastCommitSig.length by omega]

theorem shortenCommitSigs_cons_of_short (h₀ : 0 < n.Payload.LastCommitSig.length)
    (h₅ : n.Payload.LastCommitSig.length < 5) (rest : List BlockHeader) :
    shortenCommitSigs (n :: rest) = (n :: rest, some (.sliceBounds 5 n.Payload.LastCommitSig.length)) := by
  simp [shortenCommitSigs, h₀, shortenSig_of_lt h₅]

theorem shortenCommitSigs_of_fits (h : ∀ n ∈ hs, SigFits n.Payload.LastCommitSig) :
    shortenCommitSigs hs = (hs.map shortenHeader, none) := by
  induction hs with
  | nil => rfl
  | cons n rest ih =>
    rw [shortenCommitSigs_cons_of_fits (h n List.mem_cons_self),
      ih fun x hx => h x (List.mem_cons_of_mem _ hx)]
    rfl

theorem shortenCommitSigs_of_short {pre : List BlockHeader} (hpre : ∀ x ∈ pre, SigFits x.Payload.LastCommitSig)
    (h₀ : 0 < n.Payload.LastCommitSig.length) (h₅ : n.Payload.LastCommitSig.length < 5)
    (post : List BlockHeader) :
    shortenCommitSigs (pre ++ n :: post) =
      (pre.map shortenHeader ++ n :: post, some (.sliceBounds 5 n.Payload.LastCommitSig.length)) := by
  induction pre with
  | nil => exact shortenCommitSigs_cons_of_short h₀ h₅ post
  | cons x pre ih =>
    rw [List.cons_append, shortenCommitSigs_cons_of_fits (hpre x List.mem_cons_self),
      ih fun y hy => hpre y (List.mem_cons_of_mem _ hy)]
    rfl

theorem shortenCommitSigs_snd_eq_none_iff :
    (shortenCommitSigs hs).2 = none ↔ ∀ n ∈ hs, SigFits n.Payload.LastCommitSig := by
  induction hs with
  | nil => simp [shortenCommitSigs]
  | cons n rest ih =>
    by_cases hn : SigFits n.Payload.LastCommitSig
    · rw [shortenCommitSigs_cons_of_fits hn]
      simp [ih, hn]
    · have h₀ : 0 < n.Payload.LastCommitSig.length := by
        by_contra h
        exact hn (.inl (List.eq_nil_of_length_eq_zero (by omega)))
      have h₅ : n.Payload.LastCommitSig.length < 5 := by
        by_contra h
        exact hn (.inr (by omega))
      rw [shortenCommitSigs_cons_of_short h₀ h₅]
      simp [hn]

theorem sigFits_shortenHeader (n : BlockHeader) : SigFits (shortenHeader n).Payload.LastCommitSig := by
  unfold shortenHeader
  split_ifs with h
  · exact .inl h
  · have hpos : 0 < n.Payload.LastCommitSig.length := List.length_pos_of_ne_nil h
    right
    simp [BlockHeader.withSig, shortened]
    omega

theorem shortenHeader_shortenHeader (h : SigFits n.Payload.LastCommitSig) :
    shortenHeader (shortenHeader n) = shortenHeader n := by
  rcases h with h | h
  · simp [shortenHeader, h]
  · have hne : n.Payload.LastCommitSig ≠ [] := List.ne_nil_of_length_pos (by omega)
    have hne' : shortened n.Payload.LastCommitSig ≠ [] :=
      List.ne_nil_of_length_pos (by rw [length_shortened h]; omega)
    simp [shortenHeader, hne, BlockHeader.withSig, hne', shortened_shortened h]

end Shorten

def metaSummary (q : Linq.Query) (metas : List NodeMetadata) : Dict :=
  (q.groupBy (fun node : NodeMetadata => node.Payload.Version) metas).foldl
    (fun sum value => GoMap.set sum value.1 (.map [("records", .slice (value.2.map .nodeMetadata))]))
    []

def chainEntry (sample : NodeMetadata) : Dict :=
  [("chain-id", .int sample.Payload.ChainConfig.ChainID),
   ("cross-link-epoch", .int sample.Payload.ChainConfig.CrossLinkEpoch),
   ("cross-tx-epoch", .int sample.Payload.ChainConfig.CrossTxEpoch),
   ("eip155-epoch", .int sample.Payload.ChainConfig.Eip155Epoch),
   ("s3-epoch", .int sample.Payload.ChainConfig.S3Epoch),
   ("pre-staking-epoch", .int sample.Payload.ChainConfig.PreStakingEpoch),
   ("staking-epoch", .int sample.Payload.ChainConfig.StakingEpoch),
   ("blocks-per-epoch", .int sample.Payload.BlocksPerEpoch),
   ("dns-zone", .string sample.Payload.DNSZone)]

def chainStep (q : Linq.Query) (sum : Dict) (value : UInt32 × List NodeMetadata) : Except Panic Dict := do
  let sample ← (GoValue.ofNodeMetadata?
    (q.firstWith (fun c => c.Payload.ShardID = value.1) value.2)).asNodeMetadata
  pure (GoMap.set sum (shardKey value.1) (.anyMap (chainEntry sample)))

def chainSummary (q : Linq.Query) (metas : List NodeMetadata) : Except Panic Dict :=
  (q.groupBy (fun node : NodeMetadata => node.Payload.ShardID) metas).foldlM (chainStep q) []

def chainValue (value : UInt32 × List NodeMetadata) : GoValue :=
  match value.2.find? fun c => c.Payload.ShardID = value.1 with
  | some sample => .anyMap (chainEntry sample)
  | none => .nil

def summaryMaps (q : Linq.Query) (metas : List NodeMetadata) (headers : List BlockHeader) :
    List BlockHeader × Except Panic (List (String × Dict)) :=
  match shortenCommitSigs headers with
  | (headers, some p) => (headers, .error p)
  | (headers, none) =>
    (headers, (chainSummary q metas).map fun chain =>
      [(metaSumry, metaSummary q metas), (headerSumry, blockHeaderSummary q headers true []),
       (chainSumry, chain), (committeeSumry, [])])

section Summary

variable {q : Linq.Query} {metas : List NodeMetadata} {headers : List BlockHeader}

theorem chainStep_eq (hq : q.Documented) (sum : Dict) {value : UInt32 × List NodeMetadata}
    (h : ∃ c ∈ value.2, c.Payload.ShardID = value.1) :
    chainStep q sum value = .ok (GoMap.set sum (shardKey value.1) (chainValue value)) := by
  obtain ⟨c, hc, hcs⟩ := h
  cases hf : value.2.find? (fun c => c.Payload.ShardID = value.1) with
  | none => exact absurd hcs (by simpa using List.find?_eq_none.mp hf c hc)
  | some x =>
    simp only [chainStep, hq.firstWith_eq, hf, chainValue]
    rfl

theorem chainSummary_eq (hq : q.Documented) (metas : List NodeMetadata) :
    chainSummary q metas =
      .ok ((q.groupBy (fun node : NodeMetadata => node.Payload.ShardID) metas).foldl
        (fun sum value => GoMap.set sum (shardKey value.1) (chainValue value)) []) := by
  refine GoStd.foldlM_eq_ok_foldl (fun b value hv => chainStep_eq hq b ?_) []
  obtain ⟨hk, hg⟩ := (hq.mem_groupBy _).mp hv
  obtain ⟨c, hc, hck⟩ := List.mem_map.mp hk
  exact ⟨c, by rw [hg]; simp [hc, hck], hck⟩

theorem chainSummary_ok (hq : q.Documented) (metas : List NodeMetadata) :
    ∃ d, chainSummary q metas = .ok d :=
  ⟨_, chainSummary_eq hq metas⟩

theorem summaryMaps_of_chain {chain : Dict} (hchain : chainSummary q metas = .ok chain)
    (h : ∀ n ∈ headers, SigFits n.Payload.LastCommitSig) :
    summaryMaps q metas headers = (headers.map shortenHeader,
      .ok [(metaSumry, metaSummary q metas),
        (headerSumry, blockHeaderSummary q (headers.map shortenHeader) true []),
        (chainSumry, chain), (committeeSumry, [])]) := by
  rw [summaryMaps, shortenCommitSigs_of_fits h]
  simp only [hchain]
  rfl

theorem summaryMaps_of_fits (hq : q.Documented) (metas : List NodeMetadata)
    (h : ∀ n ∈ headers, SigFits n.Payload.LastCommitSig) :
    ∃ chain, summaryMaps q metas headers = (headers.map shortenHeader,
      .ok [(metaSumry, metaSummary q metas),
        (headerSumry, blockHeaderSummary q (headers.map shortenHeader) true []),
        (chainSumry, chain), (committeeSumry, [])]) := by
  obtain ⟨chain, hchain⟩ := chainSummary_ok hq metas
  exact ⟨chain, summaryMaps_of_chain hchain h⟩

theorem summaryMaps_of_short {pre : List BlockHeader} {n : BlockHeader}
    (hpre : ∀ x ∈ pre, SigFits x.Payload.LastCommitSig) (h₀ : 0 < n.Payload.LastCommitSig.length)
    (h₅ : n.Payload.LastCommitSig.length < 5) (post : List BlockHeader) :
    summaryMaps q metas (pre ++ n :: post) =
      (pre.map shortenHeader ++ n :: post, .error (.sliceBounds 5 n.Payload.LastCommitSig.length)) := by
  rw [summaryMaps, shortenCommitSigs_of_short hpre h₀ h₅ post]

theorem summaryMaps_ok_iff (hq : q.Documented) :
    (summaryMaps q metas headers).2.toBool = true ↔ ∀ n ∈ headers, SigFits n.Payload.LastCommitSig := by
  rw [← shortenCommitSigs_snd_eq_none_iff]
  obtain ⟨chain, hchain⟩ := chainSummary_ok hq metas
  rcases hsh : shortenCommitSigs headers with ⟨hs', _ | p⟩
  · simp [summaryMaps, hsh, hchain, Except.toBool, Except.map]
  · simp [summaryMaps, hsh, Except.toBool]

section Congr

variable {q₁ q₂ : Linq.Query} (hq₁ : q₁.Documented) (hq₂ : q₂.Documented)
include hq₁ hq₂

theorem lookup_metaSummary_congr (metas : List NodeMetadata) (k : String) :
    (metaSummary q₁ metas).lookup k = (metaSummary q₂ metas).lookup k := by
  exact GoMap.lookup_foldl_set_perm Prod.fst _ (hq₁.groupBy_perm_groupBy hq₂ _ metas)
    (hq₁.nodup_keys _ metas) [] k

theorem lookup_chainSummary_congr {metas : List NodeMetadata} {chain₁ chain₂ : Dict}
    (h₁ : chainSummary q₁ metas = .ok chain₁) (h₂ : chainSummary q₂ metas = .ok chain₂) (k : String) :
    chain₁.lookup k = chain₂.lookup k := by
  rw [chainSummary_eq hq₁, Except.ok.injEq] at h₁
  rw [chainSummary_eq hq₂, Except.ok.injEq] at h₂
  subst h₁ h₂
  exact GoMap.lookup_foldl_set_perm _ _ (hq₁.groupBy_perm_groupBy hq₂ _ metas)
    (nodup_shardKeys hq₁ _ metas) [] k

end Congr

end Summary

def summarySection (q : Linq.Query) : Section (List (String × Dict)) where
  body m :=
    ({ m with BlockHeaderSnapshot :=
        { m.BlockHeaderSnapshot with
          Nodes := (summaryMaps q m.MetadataSnapshot.Nodes m.BlockHeaderSnapshot.Nodes).1 } },
     (summaryMaps q m.MetadataSnapshot.Nodes m.BlockHeaderSnapshot.Nodes).2)
  inUse_body _ := rfl

def statusSection (q : Linq.Query) : Section (List (String × Dict) × List (String × Bool)) where
  body m :=
    (((summarySection q).body m).1,
     ((summarySection q).body m).2.map fun sum => (sum, m.consensusProgress))
  inUse_body _ := rfl

section Snapshots

variable {q : Linq.Query} {m : Monitor}

theorem summarySection_finishes_iff (hq : q.Documented) (m : Monitor) :
    ((summarySection q).body m).2.toBool = true ↔
      ∀ n ∈ m.BlockHeaderSnapshot.Nodes, SigFits n.Payload.LastCommitSig :=
  summaryMaps_ok_iff hq

theorem statusSection_finishes_iff (hq : q.Documented) (m : Monitor) :
    ((statusSection q).body m).2.toBool = true ↔
      ∀ n ∈ m.BlockHeaderSnapshot.Nodes, SigFits n.Payload.LastCommitSig := by
  rw [← summarySection_finishes_iff hq m]
  simp only [statusSection]
  cases ((summarySection q).body m).2 <;> rfl

theorem critical_summarySection_of_short (hm : m.inUse = false) {pre post : List BlockHeader}
    {n : BlockHeader} (hnodes : m.BlockHeaderSnapshot.Nodes = pre ++ n :: post)
    (hpre : ∀ x ∈ pre, SigFits x.Payload.LastCommitSig) (h₀ : 0 < n.Payload.LastCommitSig.length)
    (h₅ : n.Payload.LastCommitSig.length < 5) :
    ∃ m', m.critical (summarySection q) =
        some (m', .error (.sliceBounds 5 n.Payload.LastCommitSig.length)) ∧
      m'.inUse = true ∧ m'.BlockHeaderSnapshot.Nodes = pre.map shortenHeader ++ n :: post := by
  have hsum : summaryMaps q m.MetadataSnapshot.Nodes m.BlockHeaderSnapshot.Nodes =
      (pre.map shortenHeader ++ n :: post, .error (.sliceBounds 5 n.Payload.LastCommitSig.length)) := by
    rw [hnodes]
    exact summaryMaps_of_short hpre h₀ h₅ post
  refine ⟨_, critical_eq_some_iff.mpr ⟨hm, ?_, rfl⟩, rfl, ?_⟩
  · show (summaryMaps q m.MetadataSnapshot.Nodes m.BlockHeaderSnapshot.Nodes).2 = _
    rw [hsum]
  · show (summaryMaps q m.MetadataSnapshot.Nodes m.BlockHeaderSnapshot.Nodes).1 = _
    rw [hsum]

end Snapshots

def setSummaryField (sum : List (String × Dict)) (top key field : String) (value : GoValue) :
    Except Panic (List (String × Dict)) :=
  let entries := GoMap.index sum top []
  if (index entries key).isNil then .ok sum
  else do
    let entry ← (index entries key).asAny
    pure (GoMap.set sum top (GoMap.set entries key (.anyMap (GoMap.set entry field value))))

def setHeaderField (sum : List (String × Dict)) (key field : String) (value : GoValue) :
    Except Panic (List (String × Dict)) :=
  let headers := GoMap.index sum headerSumry []
  if (index headers key).isNil then .ok sum
  else do
    let entry ← (index headers key).asAny
    pure (GoMap.set sum headerSumry (GoMap.set headers key (.anyMap (GoMap.set entry field value))))

def lastCrossLink (sum : List (String × Dict)) (v : CrossLink) : Except Panic (List (String × Dict)) :=
  let headers := GoMap.index sum headerSumry []
  let key := GoStd.itoa v.ShardID
  if (index headers key).isNil then .ok sum
  else do
    let entry ← (index headers key).asAny
    pure (GoMap.set sum headerSumry
      (GoMap.set headers key (.anyMap (GoMap.set entry "last-crosslink" (.int v.BlockNumber)))))

def progressSection (sum : List (String × Dict)) :
    Section (List (String × Bool) × List NoReply × List (String × Dict)) where
  body m :=
    (m, (m.LastCrossLinks.CrossLinks.foldlM lastCrossLink sum).map fun sum =>
      (m.consensusProgress, m.MetadataSnapshot.Down ++ m.BlockHeaderSnapshot.Down, sum))
  inUse_body _ := rfl

def HeaderEntriesAny (sum : List (String × Dict)) : Prop :=
  ∀ k, (index (GoMap.index sum headerSumry []) k).isNil = false →
    ∃ e, index (GoMap.index sum headerSumry []) k = .anyMap e

def EntriesAny (sum : List (String × Dict)) (top : String) : Prop :=
  ∀ k, (index (GoMap.index sum top []) k).isNil = false → ∃ e, index (GoMap.index sum top []) k = .anyMap e

section Progress

variable {q : Linq.Query} {sum : List (String × Dict)}

theorem lastCrossLink_eq (sum : List (String × Dict)) (v : CrossLink) :
    lastCrossLink sum v = setHeaderField sum (GoStd.itoa v.ShardID) "last-crosslink" (.int v.BlockNumber) :=
  rfl

theorem setHeaderField_eq_setSummaryField (sum : List (String × Dict)) (key field : String) (value : GoValue) :
    setHeaderField sum key field value = setSummaryField sum headerSumry key field value :=
  rfl

theorem setSummaryField_ok {top : String} (h : EntriesAny sum top) (key field : String) (value : GoValue) :
    ∃ sum', setSummaryField sum top key field value = .ok sum' ∧ EntriesAny sum' top := by
  unfold setSummaryField
  dsimp only
  split_ifs with hnil
  · exact ⟨sum, rfl, h⟩
  · obtain ⟨e, he⟩ := h _ (by simpa using hnil)
    refine ⟨_, by rw [he]; rfl, fun k hk => ?_⟩
    rw [GoMap.index_set_self] at hk ⊢
    by_cases hkey : k = key
    · rw [hkey]
      exact ⟨_, by rw [index, GoMap.lookup_set_self]; rfl⟩
    · have hframe : ∀ x : GoValue,
          index (GoMap.set (GoMap.index sum top []) key x) k = index (GoMap.index sum top []) k := by
        intro x
        simp [index, GoMap.lookup_set_of_ne _ hkey]
      rw [hframe] at hk ⊢
      exact h k hk

theorem setHeaderField_ok (h : HeaderEntriesAny sum) (key field : String) (value : GoValue) :
    ∃ sum', setHeaderField sum key field value = .ok sum' ∧ HeaderEntriesAny sum' :=
  setSummaryField_ok h key field value

theorem lastCrossLink_ok (h : HeaderEntriesAny sum) (v : CrossLink) :
    ∃ sum', lastCrossLink sum v = .ok sum' ∧ HeaderEntriesAny sum' := by
  rw [lastCrossLink_eq]
  exact setHeaderField_ok h _ _ _

theorem progressSection_finishes (h : HeaderEntriesAny sum) (m : Monitor) :
    ((progressSection sum).body m).2.toBool = true := by
  have hfold : ∃ sum', m.LastCrossLinks.CrossLinks.foldlM lastCrossLink sum = .ok sum' ∧
      HeaderEntriesAny sum' :=
    GoStd.foldlM_eq_ok_of_forall HeaderEntriesAny (fun _ hb v _ => lastCrossLink_ok hb v) h
  obtain ⟨sum', hsum', -⟩ := hfold
  simp only [progressSection, hsum']
  rfl

theorem eq_of_summaryMaps (hq : q.Documented) {metas : List NodeMetadata} {headers : List BlockHeader}
    (h : (summaryMaps q metas headers).2 = .ok sum) :
    ∃ chain, sum = [(metaSumry, metaSummary q metas),
      (headerSumry, blockHeaderSummary q (headers.map shortenHeader) true []),
      (chainSumry, chain), (committeeSumry, [])] := by
  have hfits := (summaryMaps_ok_iff hq).mp (by rw [h]; rfl)
  obtain ⟨chain, hsum⟩ := summaryMaps_of_fits hq metas hfits
  rw [hsum] at h
  cases h
  exact ⟨chain, rfl⟩

theorem index_headerSumry_summaryMaps (hq : q.Documented) {metas : List NodeMetadata}
    {headers : List BlockHeader} (h : (summaryMaps q metas headers).2 = .ok sum) :
    GoMap.index sum headerSumry [] = blockHeaderSummary q (headers.map shortenHeader) true [] := by
  obtain ⟨chain, rfl⟩ := eq_of_summaryMaps hq h
  simp [GoMap.index, GoMap.lookup_cons_eq_ite, metaSumry, headerSumry]

theorem headerEntriesAny_summaryMaps (hq : q.Documented) {metas : List NodeMetadata}
    {headers : List BlockHeader} (h : (summaryMaps q metas headers).2 = .ok sum) : HeaderEntriesAny sum := by
  intro k hk
  rw [index_headerSumry_summaryMaps hq h] at hk ⊢
  cases hl : (blockHeaderSummary q (headers.map shortenHeader) true []).lookup k with
  | none => simp [index, hl, GoValue.isNil] at hk
  | some v =>
    obtain ⟨s, -, he⟩ := (mem_blockHeaderSummary_nil hq _).mp (GoMap.mem_of_lookup hl)
    cases he
    exact ⟨_, by rw [index, hl]; rfl⟩

end Progress

def renderSection (sum : List (String × Dict)) (noReplies : List NoReply) : Section Unit where
  body m := ({ m.summaryCopy sum with NoReplySnapshot := noReplies }, .ok ())
  inUse_body _ := rfl

def headerRow (shard : String) (v : GoValue) : Except Panic (List String) := do
  let n ← v.asBlockHeader
  pure [n.IP, n.Payload.BlockHash, toString n.Payload.BlockNumber.toNat, shard, n.Payload.Leader,
    toString n.Payload.ViewID.toNat, toString n.Payload.Epoch.toNat, n.Payload.Timestamp,
    toString n.Payload.UnixTime.toInt, GoStd.stringOfBytes n.Payload.LastCommitSig,
    n.Payload.LastCommitBitmap]

def headerRecordsSection (shard : List String) : Section (List (List String)) where
  body m := (m, do
    let s ← GoSlice.index shard 0 ""
    let entry ← (index (GoMap.index m.SummarySnapshot headerSumry []) s).asAny
    let sum ← (index entry "records").asSlice
    sum.mapM (headerRow s))
  inUse_body _ := rfl

def blsKeys (keys : List Bytes) : String :=
  keys.foldl (fun acc k => (if acc = "" then acc else acc ++ ", ") ++ GoStd.stringOfBytes k) ""

def metadataRow (v : GoValue) : Except Panic (List String) := do
  let n ← v.asNodeMetadata
  pure [n.IP, blsKeys n.Payload.BLSPublicKey, n.Payload.Version, n.Payload.NetworkType,
    toString n.Payload.ChainConfig.ChainID.toUInt64.toNat, toString n.Payload.IsLeader,
    toString n.Payload.ShardID.toNat, n.Payload.NodeRole, toString n.Payload.ArchivalNode]

def metadataRecordsSection (vrs : List String) : Section (List (List String)) where
  body m := (m, do
    let v ← GoSlice.index vrs 0 ""
    let entry := index (GoMap.index m.SummarySnapshot metaSumry []) v
    if entry.isNil then pure []
    else do
      let recs ← (index (← entry.asMap) "records").asSlice
      recs.mapM metadataRow)
  inUse_body _ := rfl

def metadataSection : Section Unit where
  body m := (m.metadataCopy m.WorkingMetadata, .ok ())
  inUse_body _ := rfl

def blockHeaderSection (prevEpoch : UInt64) : Section (UInt64 × Bool) where
  body m :=
    (m.blockHeaderCopy m.WorkingBlockHeader,
     .ok (match m.WorkingBlockHeader.Nodes.find? (fun n => n.Payload.ShardID = 0) with
      | some n => if n.Payload.Epoch > prevEpoch then (n.Payload.Epoch, true) else (prevEpoch, false)
      | none => (prevEpoch, false)))
  inUse_body _ := rfl

def consensusSection (status : List (String × Bool)) : Section Unit where
  body m := ({ m with consensusProgress := status }, .ok ())
  inUse_body _ := rfl

def crossLinkSection (crossLinks : List CrossLink) : Section Unit where
  body m := ({ m with LastCrossLinks := ⟨crossLinks⟩ }, .ok ())
  inUse_body _ := rfl

inductive Response where
  | httpError (msg : String) (code : Nat)
  | csv (filename : String) (records : List (List String))
  deriving DecidableEq, Repr

def Monitor.produceCSV (query : List (String × List String)) (m : Monitor) :
    Option (Monitor × Except Panic Response) :=
  match query.lookup "report" with
  | none => some (m, .ok (.httpError "report not chosen in query param" 400))
  | some keys =>
    match GoSlice.index keys 0 "" with
    | .error p => some (m, .error p)
    | .ok report =>
      if report = blockHeaderReport then
        match query.lookup "shard" with
        | none => some (m, .ok (.httpError "shard not chosen in query param" 400))
        | some shard =>
          (m.critical (headerRecordsSection shard)).map fun r =>
            (r.1, r.2.map fun rows => .csv (blockHeaderReport ++ ".csv") (headerInformationCSVHeader :: rows))
      else if report = nodeMetadataReport then
        match query.lookup "vrs" with
        | none => some (m, .ok (.httpError "version not chosen in query param" 400))
        | some vrs =>
          (m.critical (metadataRecordsSection vrs)).map fun r =>
            (r.1, r.2.map fun rows => .csv (nodeMetadataReport ++ ".csv") (nodeMetadataCSVHeader :: rows))
      else some (m, .ok (.csv "" []))

section ProduceCSV

variable {m : Monitor} {query : List (String × List String)} {shard : String} {rest : List String}

theorem headerRecordsSection_nil_entry (rest : List String)
    (h : (GoMap.index m.SummarySnapshot headerSumry []).lookup shard = none) :
    ((headerRecordsSection (shard :: rest)).body m).2 = .error (.typeAssertion "nil" "main.any") := by
  simp [headerRecordsSection, GoSlice.index, index, h, GoValue.asAny, GoValue.typeName]

theorem metadataRecordsSection_nil_entry (rest : List String)
    (h : (GoMap.index m.SummarySnapshot metaSumry []).lookup shard = none) :
    ((metadataRecordsSection (shard :: rest)).body m).2 = .ok [] := by
  simp [metadataRecordsSection, GoSlice.index, index, h, GoValue.isNil]
  rfl

theorem produceCSV_blockHeader {reports : List String}
    (hr : query.lookup "report" = some (blockHeaderReport :: reports))
    (hs : query.lookup "shard" = some (shard :: rest)) :
    m.produceCSV query = (m.critical (headerRecordsSection (shard :: rest))).map fun r =>
      (r.1, r.2.map fun rows => .csv (blockHeaderReport ++ ".csv") (headerInformationCSVHeader :: rows)) := by
  simp [Monitor.produceCSV, hr, hs, GoSlice.index]

theorem produceCSV_nodeMetadata {reports : List String} {v : String}
    (hr : query.lookup "report" = some (nodeMetadataReport :: reports))
    (hv : query.lookup "vrs" = some (v :: rest)) :
    m.produceCSV query = (m.critical (metadataRecordsSection (v :: rest))).map fun r =>
      (r.1, r.2.map fun rows => .csv (nodeMetadataReport ++ ".csv") (nodeMetadataCSVHeader :: rows)) := by
  simp [Monitor.produceCSV, hr, hv, blockHeaderReport, nodeMetadataReport]

theorem produceCSV_of_header_records {reports : List String} (hm : m.inUse = false)
    (hr : query.lookup "report" = some (blockHeaderReport :: reports))
    (hs : query.lookup "shard" = some (shard :: rest)) {e : Dict} {hs' : List BlockHeader}
    (he : index (GoMap.index m.SummarySnapshot headerSumry []) shard = .anyMap e)
    (hrec : e.lookup "records" = some (.slice (hs'.map .blockHeader))) :
    ∃ rows, m.produceCSV query =
        some (m, .ok (.csv (blockHeaderReport ++ ".csv") (headerInformationCSVHeader :: rows))) ∧
      List.Forall₂ (fun h row => headerRow shard (.blockHeader h) = .ok row) hs' rows := by
  obtain ⟨rows, hrows, hall⟩ :=
    GoStd.mapM_map_eq_ok_of_forall (f := GoValue.blockHeader) (g := headerRow shard) hs' fun _ _ => ⟨_, rfl⟩
  have hbody : ((headerRecordsSection (shard :: rest)).body { m with inUse := true }).2 = .ok rows := by
    show (do
      let s ← GoSlice.index (shard :: rest) 0 ""
      let entry ← (index (GoMap.index m.SummarySnapshot headerSumry []) s).asAny
      let sum ← (index entry "records").asSlice
      sum.mapM (headerRow s)) = _
    rw [GoSlice.index_cons_zero, GoStd.ok_bind, he]
    simp only [GoValue.asAny, GoStd.ok_bind, index, hrec, Option.getD_some, GoValue.asSlice, hrows]
  have hcrit : m.critical (headerRecordsSection (shard :: rest)) = some (m, .ok rows) :=
    critical_of_body hm (Prod.ext rfl hbody) hm
  refine ⟨rows, ?_, hall⟩
  rw [produceCSV_blockHeader hr hs, hcrit]
  rfl

theorem produceCSV_of_version_records {reports : List String} {v : String} (hm : m.inUse = false)
    (hr : query.lookup "report" = some (nodeMetadataReport :: reports))
    (hv : query.lookup "vrs" = some (v :: rest)) {group : List NodeMetadata}
    (hentry : (index (GoMap.index m.SummarySnapshot metaSumry []) v = .nil ∧ group = []) ∨
      index (GoMap.index m.SummarySnapshot metaSumry []) v = .map [("records", .slice (group.map .nodeMetadata))]) :
    ∃ rows, m.produceCSV query =
        some (m, .ok (.csv (nodeMetadataReport ++ ".csv") (nodeMetadataCSVHeader :: rows))) ∧
      List.Forall₂ (fun n row => metadataRow (.nodeMetadata n) = .ok row) group rows := by
  obtain ⟨rows, hrows, hall⟩ :=
    GoStd.mapM_map_eq_ok_of_forall (f := GoValue.nodeMetadata) (g := metadataRow) group fun _ _ => ⟨_, rfl⟩
  have hbody : ((metadataRecordsSection (v :: rest)).body { m with inUse := true }).2 = .ok rows := by
    show (do
      let v ← GoSlice.index (v :: rest) 0 ""
      let entry := index (GoMap.index m.SummarySnapshot metaSumry []) v
      if entry.isNil then pure []
      else do
        let recs ← (index (← entry.asMap) "records").asSlice
        recs.mapM metadataRow) = _
    rw [GoSlice.index_cons_zero, GoStd.ok_bind]
    rcases hentry with ⟨hnil, rfl⟩ | hmap
    · cases hrows
      simp only [hnil, GoValue.isNil, if_true]
      rfl
    · rw [hmap]
      simp only [GoValue.isNil, Bool.false_eq_true, if_false, GoValue.asMap, GoStd.ok_bind, index,
        List.lookup_cons_self, Option.getD_some, GoValue.asSlice, hrows]
  have hcrit : m.critical (metadataRecordsSection (v :: rest)) = some (m, .ok rows) :=
    critical_of_body hm (Prod.ext rfl hbody) hm
  refine ⟨rows, ?_, hall⟩
  rw [produceCSV_nodeMetadata hr hv, hcrit]
  rfl

theorem critical_headerRecordsSection_nil_entry (hm : m.inUse = false) (rest : List String)
    (h : (GoMap.index m.SummarySnapshot headerSumry []).lookup shard = none) :
    m.critical (headerRecordsSection (shard :: rest)) =
      some ({ m with inUse := true }, .error (.typeAssertion "nil" "main.any")) :=
  critical_eq_some_iff.mpr ⟨hm, headerRecordsSection_nil_entry rest h, rfl⟩

theorem produceCSV_nil_entry {reports : List String} (hm : m.inUse = false)
    (hr : query.lookup "report" = some (blockHeaderReport :: reports))
    (hs : query.lookup "shard" = some (shard :: rest))
    (h : (GoMap.index m.SummarySnapshot headerSumry []).lookup shard = none) :
    m.produceCSV query = some ({ m with inUse := true }, .error (.typeAssertion "nil" "main.any")) := by
  rw [produceCSV_blockHeader hr hs, critical_headerRecordsSection_nil_entry hm rest h]
  rfl

end ProduceCSV

inductive MonitorAction where
  | produceCSVHeader (shard : List String)
  | produceCSVMetadata (vrs : List String)
  | networkSummary
  | networkProgress (sum : List (String × Dict))
  | statusSummary
  | renderReport (sum : List (String × Dict)) (noReplies : List NoReply)
  | metadataCopy
  | blockHeaderCopy (prevEpoch : UInt64)
  | consensusProgress (status : List (String × Bool))
  | lastCrossLinks (crossLinks : List CrossLink)
  | collectMetadata (c : MetadataContainer)
  | collectBlockHeaders (c : BlockHeaderContainer)
  | consensusStatus (shard : String) (status : Bool)

def MonitorAction.locks : MonitorAction → Bool
  | .collectMetadata _ | .collectBlockHeaders _ | .consensusStatus _ _ => false
  | _ => true

def monitorStep (q : Linq.Query) (m : Monitor) : MonitorAction → Option Monitor
  | .produceCSVHeader shard => (m.critical (headerRecordsSection shard)).map Prod.fst
  | .produceCSVMetadata vrs => (m.critical (metadataRecordsSection vrs)).map Prod.fst
  | .networkSummary => (m.critical (summarySection q)).map Prod.fst
  | .networkProgress sum => (m.critical (progressSection sum)).map Prod.fst
  | .statusSummary => (m.critical (statusSection q)).map Prod.fst
  | .renderReport sum noReplies => (m.critical (renderSection sum noReplies)).map Prod.fst
  | .metadataCopy => (m.critical metadataSection).map Prod.fst
  | .blockHeaderCopy prevEpoch => (m.critical (blockHeaderSection prevEpoch)).map Prod.fst
  | .consensusProgress status => (m.critical (consensusSection status)).map Prod.fst
  | .lastCrossLinks crossLinks => (m.critical (crossLinkSection crossLinks)).map Prod.fst
  | .collectMetadata c => some { m with WorkingMetadata := c }
  | .collectBlockHeaders c => some { m with WorkingBlockHeader := c }
  | .consensusStatus shard status => some { m with consensusProgress := GoMap.set m.consensusProgress shard status }

def MonitorAction.copies : MonitorAction → Bool
  | .renderReport _ _ | .metadataCopy | .blockHeaderCopy _ | .consensusProgress _
  | .lastCrossLinks _ | .collectMetadata _ | .collectBlockHeaders _ | .consensusStatus _ _ => true
  | _ => false

def monitorLock (q : Linq.Query) (chain : String) : Interleaving.System Monitor MonitorAction :=
  ⟨Monitor.init chain, monitorStep q⟩

section Lock

variable {q : Linq.Query} {chain : String} {m m' : Monitor} {a : MonitorAction}

theorem monitorStep_cases (q : Linq.Query) (m : Monitor) (a : MonitorAction) :
    (a.locks = true ∧ ∃ (α : Type) (s : Section α), monitorStep q m a = (m.critical s).map Prod.fst) ∨
      (a.locks = false ∧ ∃ m', monitorStep q m a = some m' ∧ m'.inUse = m.inUse) := by
  cases a <;> first
    | exact .inl ⟨rfl, _, _, rfl⟩
    | exact .inr ⟨rfl, _, rfl, rfl⟩

theorem monitorStep_eq_none_iff : monitorStep q m a = none ↔ a.locks = true ∧ m.inUse = true := by
  rcases monitorStep_cases q m a with ⟨hl, α, s, hs⟩ | ⟨hl, m₁, hs, -⟩
  · rw [hs, Option.map_eq_none_iff, critical_eq_none_iff, hl]
    simp
  · rw [hs, hl]
    simp

theorem inUse_monitorStep (h : monitorStep q m a = some m') (hm : m.inUse = true) : m'.inUse = true := by
  rcases monitorStep_cases q m a with ⟨-, α, s, hs⟩ | ⟨-, m₁, hs, hin⟩
  · rw [hs, critical_eq_none_iff.mpr hm] at h
    cases h
  · rw [hs] at h
    cases h
    rw [hin, hm]

theorem inUse_inductive (q : Linq.Query) (chain : String) :
    (monitorLock q chain).Inductive fun m => m.inUse = true :=
  fun _ _ _ hm h => inUse_monitorStep h hm

theorem held_forever (hm : m.inUse = true) {trace : List MonitorAction}
    (h : (monitorLock q chain).run m trace = some m') :
    m'.inUse = true ∧ ∀ a, a.locks = true → monitorStep q m' a = none := by
  have hheld := (inUse_inductive q chain).run hm h
  exact ⟨hheld, fun a ha => monitorStep_eq_none_iff.mpr ⟨ha, hheld⟩⟩

theorem monitorStep_released_of_copies (hm : m.inUse = false) (ha : a.copies = true) :
    ∃ m', monitorStep q m a = some m' ∧ m'.inUse = false := by
  have hsafe : ∀ {α : Type} (s : Section α), s.Safe →
      ∃ m', (m.critical s).map Prod.fst = some m' ∧ m'.inUse = false := by
    intro α s hs
    obtain ⟨m', x, h, hm'⟩ := critical_of_safe hs hm
    exact ⟨m', by rw [h]; rfl, hm'⟩
  cases a with
  | produceCSVHeader shard => cases ha
  | produceCSVMetadata vrs => cases ha
  | networkSummary => cases ha
  | networkProgress sum => cases ha
  | statusSummary => cases ha
  | renderReport sum noReplies => exact hsafe _ fun _ => rfl
  | metadataCopy => exact hsafe _ fun _ => rfl
  | blockHeaderCopy prevEpoch => exact hsafe _ fun _ => rfl
  | consensusProgress status => exact hsafe _ fun _ => rfl
  | lastCrossLinks crossLinks => exact hsafe _ fun _ => rfl
  | collectMetadata c => exact ⟨_, rfl, hm⟩
  | collectBlockHeaders c => exact ⟨_, rfl, hm⟩
  | consensusStatus shard status => exact ⟨_, rfl, hm⟩

theorem monitorStep_summary_released_iff (hq : q.Documented) (hm : m.inUse = false) :
    (∃ m', monitorStep q m .networkSummary = some m' ∧
      (m'.inUse = false ↔ ∀ n ∈ m.BlockHeaderSnapshot.Nodes, SigFits n.Payload.LastCommitSig)) ∧
    (∃ m', monitorStep q m .statusSummary = some m' ∧
      (m'.inUse = false ↔ ∀ n ∈ m.BlockHeaderSnapshot.Nodes, SigFits n.Payload.LastCommitSig)) := by
  obtain ⟨m₁, r₁, h₁, hrel₁⟩ := critical_released_iff (s := summarySection q) hm
  obtain ⟨m₂, r₂, h₂, hrel₂⟩ := critical_released_iff (s := statusSection q) hm
  refine ⟨⟨m₁, ?_, hrel₁.trans (summarySection_finishes_iff hq _)⟩,
    ⟨m₂, ?_, hrel₂.trans (statusSection_finishes_iff hq _)⟩⟩
  · simp [monitorStep, h₁]
  · simp [monitorStep, h₂]

end Lock

def shortSigHeader : BlockHeader := ⟨⟨"0xa", 7, 0, "one1a", 7, 2, "t0", 100, [1, 2, 3], "ff"⟩, "10.0.0.1:9500"⟩

theorem produceCSV_leaves_inUse_held (q : Linq.Query) :
    (Monitor.init "mainnet").produceCSV [("report", [blockHeaderReport]), ("shard", ["0"])] =
        some ({ Monitor.init "mainnet" with inUse := true }, .error (.typeAssertion "nil" "main.any")) ∧
      (∃ m, (monitorLock q "mainnet").run (monitorLock q "mainnet").init [.produceCSVHeader ["0"]] = some m ∧
        ∀ trace m', (monitorLock q "mainnet").run m trace = some m' →
          m'.inUse = true ∧ ∀ a, a.locks = true → monitorStep q m' a = none) ∧
      ∃ m, (monitorLock q "mainnet").run (monitorLock q "mainnet").init
          [.collectBlockHeaders ⟨0, [shortSigHeader], []⟩, .blockHeaderCopy 0, .networkSummary] = some m ∧
        m.BlockHeaderSnapshot.Nodes = [shortSigHeader] ∧
        ∀ trace m', (monitorLock q "mainnet").run m trace = some m' →
          m'.inUse = true ∧ ∀ a, a.locks = true → monitorStep q m' a = none := by
  have hcsv : (Monitor.init "mainnet").produceCSV [("report", [blockHeaderReport]), ("shard", ["0"])] =
      some ({ Monitor.init "mainnet" with inUse := true }, .error (.typeAssertion "nil" "main.any")) :=
    produceCSV_nil_entry rfl rfl rfl rfl
  have hcsvStep : (monitorLock q "mainnet").step (monitorLock q "mainnet").init (.produceCSVHeader ["0"]) =
      some { Monitor.init "mainnet" with inUse := true } := by
    show ((Monitor.init "mainnet").critical (headerRecordsSection ["0"])).map Prod.fst = _
    rw [critical_headerRecordsSection_nil_entry rfl [] rfl]
    rfl
  refine ⟨hcsv, ⟨_, Interleaving.System.run_singleton hcsvStep, fun trace m' h => held_forever rfl h⟩, ?_⟩
  obtain ⟨m₁, hm₁⟩ : ∃ m₁ : Monitor,
      m₁ = { Monitor.init "mainnet" with WorkingBlockHeader := ⟨0, [shortSigHeader], []⟩ } := ⟨_, rfl⟩
  obtain ⟨m₂, hm₂⟩ : ∃ m₂ : Monitor,
      m₂ = { m₁.blockHeaderCopy m₁.WorkingBlockHeader with inUse := false } := ⟨_, rfl⟩
  have hcollect : (monitorLock q "mainnet").step (monitorLock q "mainnet").init
      (.collectBlockHeaders ⟨0, [shortSigHeader], []⟩) = some m₁ := by
    rw [hm₁]
    rfl
  have hcopy : (monitorLock q "mainnet").step m₁ (.blockHeaderCopy 0) = some m₂ := by
    show (m₁.critical (blockHeaderSection 0)).map Prod.fst = _
    rw [critical_eq_some_iff.mpr ⟨by rw [hm₁]; rfl, rfl, rfl⟩, hm₂]
    rfl
  have hsnapshot : m₂.BlockHeaderSnapshot.Nodes = [] ++ shortSigHeader :: [] := by
    rw [hm₂, hm₁]
    rfl
  obtain ⟨m₃, hsum, hheld, hnodes⟩ := critical_summarySection_of_short (q := q)
    (by rw [hm₂]) hsnapshot (by simp) (by decide) (by decide)
  have hsummary : (monitorLock q "mainnet").step m₂ .networkSummary = some m₃ := by
    show (m₂.critical (summarySection q)).map Prod.fst = _
    rw [hsum]
    rfl
  refine ⟨m₃, ?_, hnodes, fun trace m' h => held_forever hheld h⟩
  rw [Interleaving.System.run_cons_of_step hcollect, Interleaving.System.run_cons_of_step hcopy,
    Interleaving.System.run_singleton hsummary]

end Watchdog
