import Mathlib
import Watchdog.Report.Network

namespace Watchdog

open GoSlice (Panic)
open GoMap (RangeOrder)

structure ReportPage where
  LeftTitle : List String
  RightTitle : List String
  Summary : List (String × Dict)
  NoReply : List NoReply
  DownMachineCount : Int64

inductive RenderResponse where
  | httpError (msg : String) (code : Nat)
  | page (v : ReportPage)

def consensusStatus (ord : RangeOrder) (progress : List (String × Bool)) (sum : List (String × Dict)) :
    Except Panic (List (String × Dict)) :=
  if progress.length ≠ 0 then
    (ord.arrange progress).foldlM
      (fun sum kv => setSummaryField sum chainSumry kv.1 "consensus-status" (.bool kv.2)) sum
  else .ok sum

def templateData (q : Linq.Query) (now : String) (report : NetworkReport) (summary : List (String × Dict)) :
    ReportPage :=
  ⟨[report.Chain], [report.Build, now], summary, report.NoReplies,
    Int64.ofNat (q.distinct (report.NoReplies.map NoReply.IP)).length⟩

def Monitor.renderReport (q : Linq.Query) (metaOrd leaderOrd progressOrd : RangeOrder) (buildVersion : String)
    (parse : String → Except String Unit) (now : String) (m : Monitor) :
    Option (Monitor × Except Panic RenderResponse) :=
  match m.networkReport q metaOrd leaderOrd buildVersion with
  | some (m₁, .ok report) =>
    match consensusStatus progressOrd report.ConsensusProgress report.Summary with
    | .ok summary =>
      match parse m₁.chain with
      | .error e => some (m₁, .ok (.httpError ("could not generate page:" ++ e) 500))
      | .ok _ => (m₁.critical (renderSection summary report.NoReplies)).map fun r =>
          (r.1, r.2.map fun _ => .page (templateData q now report summary))
    | .error p => some (m₁, .error p)
  | some (m₁, .error p) => some (m₁, .error p)
  | none => none

structure ConsensusSummary (progress : List (String × Bool)) (sum sum' : List (String × Dict)) : Prop where
  frame : ∀ k, k ≠ chainSumry → GoMap.index sum' k [] = GoMap.index sum k []
  absent : ∀ k, index (GoMap.index sum chainSumry []) k = .nil → index (GoMap.index sum' chainSumry []) k = .nil
  entry : ∀ k e, index (GoMap.index sum chainSumry []) k = .anyMap e →
    ∃ e', index (GoMap.index sum' chainSumry []) k = .anyMap e' ∧
      (∀ f, f ≠ "consensus-status" → e'.lookup f = e.lookup f) ∧
      e'.lookup "consensus-status" = (progress.lookup k).map .bool

structure ReportSpec (q : Linq.Query) (buildVersion now : String) (m : Monitor) (page : ReportPage) : Prop where
  titles : page.LeftTitle = [m.chain] ∧ page.RightTitle = [buildVersion, now]
  summary : ∃ sum₀ sum₁, (summaryMaps q m.MetadataSnapshot.Nodes m.BlockHeaderSnapshot.Nodes).2 = .ok sum₀ ∧
    NetworkSummary m.MetadataSnapshot.Nodes m.LastCrossLinks.CrossLinks sum₀ sum₁ ∧
    ConsensusSummary m.consensusProgress sum₁ page.Summary
  noReply : page.NoReply = m.MetadataSnapshot.Down ++ m.BlockHeaderSnapshot.Down
  downMachineCount : page.DownMachineCount = Int64.ofNat (page.NoReply.map NoReply.IP).toFinset.card

section Consensus

variable {sum : List (String × Dict)}

theorem consensusStatus_eq (ord : RangeOrder) (progress : List (String × Bool)) (sum : List (String × Dict)) :
    consensusStatus ord progress sum = (ord.arrange progress).foldlM
      (fun sum kv => setSummaryField sum chainSumry kv.1 "consensus-status" (.bool kv.2)) sum := by
  unfold consensusStatus
  split_ifs with h
  · rfl
  · obtain rfl : progress = [] := List.eq_nil_of_length_eq_zero (not_not.mp h)
    rw [(ord.perm []).eq_nil]
    rfl

theorem consensusStatus_ok (ord : RangeOrder) (progress : List (String × Bool)) (h : EntriesAny sum chainSumry) :
    ∃ sum', consensusStatus ord progress sum = .ok sum' ∧
      ∀ k, k ≠ chainSumry → GoMap.index sum' k [] = GoMap.index sum k [] := by
  obtain ⟨s', hs', -, hframe⟩ :=
    foldlM_setSummaryField_ok (fun kv : String × Bool => GoValue.bool kv.2) (ord.arrange progress) h
  exact ⟨s', by rw [consensusStatus_eq]; exact hs', hframe⟩

theorem consensusStatus_spec (ord : RangeOrder) {progress : List (String × Bool)}
    (hnd : (progress.map Prod.fst).Nodup) (h : EntriesAny sum chainSumry)
    (hfresh : ∀ k e, index (GoMap.index sum chainSumry []) k = .anyMap e → e.lookup "consensus-status" = none) :
    ∃ sum', consensusStatus ord progress sum = .ok sum' ∧ ConsensusSummary progress sum sum' := by
  have hnd' : ((ord.arrange progress).map Prod.fst).Nodup := ((ord.perm progress).map Prod.fst).nodup_iff.mpr hnd
  obtain ⟨s', hs', -, hframe, hother, hwrite⟩ := foldlM_setSummaryField
    (fun kv : String × Bool => GoValue.bool kv.2) hnd' h
  have hkeys : ∀ k, k ∈ (ord.arrange progress).map Prod.fst ↔ k ∈ progress.map Prod.fst :=
    fun k => ((ord.perm progress).map Prod.fst).mem_iff
  have hentry : ∀ k, (∃ b, progress.lookup k = some b ∧
      index (GoMap.index s' chainSumry []) k = (index (GoMap.index sum chainSumry []) k).withField
        "consensus-status" (.bool b)) ∨
      (progress.lookup k = none ∧ index (GoMap.index s' chainSumry []) k = index (GoMap.index sum chainSumry []) k) := by
    intro k
    by_cases hk : k ∈ progress.map Prod.fst
    · obtain ⟨kv, hkv, rfl⟩ := List.mem_map.mp hk
      exact .inl ⟨kv.2, GoMap.lookup_of_mem hnd hkv, hwrite kv (RangeOrder.mem_arrange ord |>.mpr hkv)⟩
    · exact .inr ⟨(GoMap.lookup_eq_none_iff_keys progress k).mpr hk, hother k fun h' => hk ((hkeys k).mp h')⟩
  refine ⟨s', by rw [consensusStatus_eq]; exact hs', ⟨hframe, fun k hk => ?_, fun k e he => ?_⟩⟩
  · rcases hentry k with ⟨b, -, hb⟩ | ⟨-, hb⟩
    · rw [hb, hk]
      rfl
    · rw [hb, hk]
  · rcases hentry k with ⟨b, hlk, hb⟩ | ⟨hlk, hb⟩
    · refine ⟨_, by rw [hb, he]; rfl, fun f hf => GoMap.lookup_set_of_ne e hf _, ?_⟩
      rw [hlk, GoMap.lookup_set_self]
      rfl
    · exact ⟨e, by rw [hb, he], fun _ _ => rfl, by rw [hlk, hfresh k e he]; rfl⟩

end Consensus

section Chain

variable {q : Linq.Query} {metas : List NodeMetadata} {headers : List BlockHeader}
  {sum : List (String × Dict)}

theorem chainValue_cases (value : UInt32 × List NodeMetadata) :
    chainValue value = .nil ∨ ∃ sample, chainValue value = .anyMap (chainEntry sample) := by
  unfold chainValue
  split
  · exact .inr ⟨_, rfl⟩
  · exact .inl rfl

theorem index_chainSumry_summaryMaps (hq : q.Documented) (h : (summaryMaps q metas headers).2 = .ok sum) :
    GoMap.index sum chainSumry [] = (q.groupBy (fun node : NodeMetadata => node.Payload.ShardID) metas).map
      fun value => (shardKey value.1, chainValue value) := by
  have hfits := (summaryMaps_ok_iff hq).mp (by rw [h]; rfl)
  obtain rfl := Except.ok.inj ((congrArg Prod.snd (summaryMaps_of_chain (chainSummary_eq hq metas) hfits)).symm.trans h)
  rw [← List.nil_append ((q.groupBy _ metas).map _),
    ← GoMap.foldl_set_of_fresh _ _ _ (nodup_shardKeys hq _ metas) [] fun _ _ => List.not_mem_nil]
  simp [GoMap.index, GoMap.lookup_cons_eq_ite, metaSumry, headerSumry, chainSumry]

theorem chain_summaryMaps (hq : q.Documented) (h : (summaryMaps q metas headers).2 = .ok sum) (k : String) :
    index (GoMap.index sum chainSumry []) k = .nil ∨
      ∃ sample, index (GoMap.index sum chainSumry []) k = .anyMap (chainEntry sample) := by
  rw [index_chainSumry_summaryMaps hq h]
  cases hl : ((q.groupBy (fun node : NodeMetadata => node.Payload.ShardID) metas).map
      fun value => (shardKey value.1, chainValue value)).lookup k with
  | none => exact .inl (by rw [index, hl]; rfl)
  | some w =>
    obtain ⟨value, -, hv⟩ := List.mem_map.mp (GoMap.mem_of_lookup hl)
    rw [index, hl, Option.getD_some, ← (Prod.mk.inj hv).2]
    exact chainValue_cases value

theorem entriesAny_chain_of_summaryMaps (hq : q.Documented) (h : (summaryMaps q metas headers).2 = .ok sum)
    {sum' : List (String × Dict)} (hframe : GoMap.index sum' chainSumry [] = GoMap.index sum chainSumry []) :
    EntriesAny sum' chainSumry ∧
      ∀ k e, index (GoMap.index sum' chainSumry []) k = .anyMap e → e.lookup "consensus-status" = none := by
  refine ⟨fun k hk => ?_, fun k e he => ?_⟩
  · rw [hframe] at hk ⊢
    rcases chain_summaryMaps hq h k with hnil | ⟨sample, hs⟩
    · rw [hnil] at hk
      cases hk
    · exact ⟨_, hs⟩
  · rw [hframe] at he
    rcases chain_summaryMaps hq h k with hnil | ⟨sample, hs⟩
    · rw [hnil] at he
      cases he
    · rw [hs, GoValue.anyMap.injEq] at he
      subst he
      rfl

end Chain

section Render

variable {q : Linq.Query} {metaOrd leaderOrd : RangeOrder} {buildVersion : String}

theorem renderReport_of_network (progressOrd : RangeOrder) (parse : String → Except String Unit) (now : String)
    {m m₁ : Monitor} {report : NetworkReport} {summary : List (String × Dict)}
    (hnet : m.networkReport q metaOrd leaderOrd buildVersion = some (m₁, .ok report))
    (hcs : consensusStatus progressOrd report.ConsensusProgress report.Summary = .ok summary) :
    (parse m₁.chain = .ok () → m₁.inUse = false →
      m.renderReport q metaOrd leaderOrd progressOrd buildVersion parse now =
        some ({ m₁ with SummarySnapshot := summary, NoReplySnapshot := report.NoReplies },
          .ok (.page (templateData q now report summary)))) ∧
    ∀ e, parse m₁.chain = .error e →
      m.renderReport q metaOrd leaderOrd progressOrd buildVersion parse now =
        some (m₁, .ok (.httpError ("could not generate page:" ++ e) 500)) := by
  refine ⟨fun hp hm₁ => ?_, fun e hp => ?_⟩
  · have hcrit : m₁.critical (renderSection summary report.NoReplies) =
        some ({ m₁ with SummarySnapshot := summary, NoReplySnapshot := report.NoReplies }, .ok ()) :=
      critical_of_body hm₁ rfl hm₁
    simp only [Monitor.renderReport, hnet, hcs, hp, hcrit]
    rfl
  · simp only [Monitor.renderReport, hnet, hcs, hp]

theorem renderReport_ok (hq : q.Documented) (metaOrd leaderOrd progressOrd : RangeOrder) (buildVersion : String)
    (parse : String → Except String Unit) (now : String) {m : Monitor} (hm : m.inUse = false)
    (hok : (summaryMaps q m.MetadataSnapshot.Nodes m.BlockHeaderSnapshot.Nodes).2.toBool = true) :
    ∃ sum₀ sum₁ summary, (summaryMaps q m.MetadataSnapshot.Nodes m.BlockHeaderSnapshot.Nodes).2 = .ok sum₀ ∧
      NetworkSummary m.MetadataSnapshot.Nodes m.LastCrossLinks.CrossLinks sum₀ sum₁ ∧
      consensusStatus progressOrd m.consensusProgress sum₁ = .ok summary ∧
      (∀ k, k ≠ chainSumry → GoMap.index summary k [] = GoMap.index sum₁ k []) ∧
      (parse m.chain = .ok () →
        m.renderReport q metaOrd leaderOrd progressOrd buildVersion parse now =
          some ({ m.shortenSigs with
              SummarySnapshot := summary, NoReplySnapshot := m.MetadataSnapshot.Down ++ m.BlockHeaderSnapshot.Down },
            .ok (.page (templateData q now ⟨buildVersion, m.chain, m.consensusProgress, sum₁,
              m.MetadataSnapshot.Down ++ m.BlockHeaderSnapshot.Down⟩ summary)))) ∧
      ∀ e, parse m.chain = .error e →
        m.renderReport q metaOrd leaderOrd progressOrd buildVersion parse now =
          some (m.shortenSigs, .ok (.httpError ("could not generate page:" ++ e) 500)) := by
  obtain ⟨sum₀, sum₁, hsum, hnet, hspec⟩ := networkReport_ok hq metaOrd leaderOrd buildVersion hm hok
  have hany := (entriesAny_chain_of_summaryMaps hq hsum (hspec.frame chainSumry (by decide))).1
  obtain ⟨summary, hcs, hframe⟩ := consensusStatus_ok progressOrd m.consensusProgress hany
  obtain ⟨hpage, herror⟩ := renderReport_of_network progressOrd parse now hnet hcs
  exact ⟨sum₀, sum₁, summary, hsum, hspec, hcs, hframe, fun hp => hpage hp hm, herror⟩

end Render

theorem renderReport_spec {q : Linq.Query} (hq : q.Documented) (metaOrd leaderOrd progressOrd : RangeOrder)
    (buildVersion : String) (parse : String → Except String Unit) (now : String) (m : Monitor)
    (hm : m.inUse = false)
    (hok : (summaryMaps q m.MetadataSnapshot.Nodes m.BlockHeaderSnapshot.Nodes).2.toBool = true)
    (hnd : (m.consensusProgress.map Prod.fst).Nodup) :
    ∃ page, ReportSpec q buildVersion now m page ∧
      (parse m.chain = .ok () →
        m.renderReport q metaOrd leaderOrd progressOrd buildVersion parse now =
          some ({ m.shortenSigs with SummarySnapshot := page.Summary, NoReplySnapshot := page.NoReply },
            .ok (.page page))) ∧
      ∀ e, parse m.chain = .error e →
        m.renderReport q metaOrd leaderOrd progressOrd buildVersion parse now =
          some (m.shortenSigs, .ok (.httpError ("could not generate page:" ++ e) 500)) := by
  obtain ⟨sum₀, sum₁, summary, hsum, hnet, hcs, -, hpage, herror⟩ :=
    renderReport_ok hq metaOrd leaderOrd progressOrd buildVersion parse now hm hok
  obtain ⟨hany, hfresh⟩ := entriesAny_chain_of_summaryMaps hq hsum (hnet.frame chainSumry (by decide))
  obtain ⟨summary', hcs', hcons⟩ := consensusStatus_spec progressOrd hnd hany hfresh
  obtain rfl : summary = summary' := Except.ok.inj (hcs.symm.trans hcs')
  refine ⟨templateData q now ⟨buildVersion, m.chain, m.consensusProgress, sum₁,
      m.MetadataSnapshot.Down ++ m.BlockHeaderSnapshot.Down⟩ summary,
    ⟨⟨rfl, rfl⟩, ⟨sum₀, sum₁, hsum, hnet, hcons⟩, rfl, ?_⟩, hpage, herror⟩
  show Int64.ofNat (q.distinct _).length = _
  rw [hq.distinct_eq, Linq.length_eraseDups]
  rfl

def shardZeroMonitor : Monitor := { sevenByteSigMonitor with consensusProgress := [("0", true)] }

theorem renderReport_spec_shardZero :
    ∃ page, ReportSpec .reference "v1" "now" shardZeroMonitor page ∧
      ((fun _ => .ok ()) shardZeroMonitor.chain = (.ok () : Except String Unit) →
        shardZeroMonitor.renderReport .reference .insertion .insertion .insertion "v1" (fun _ => .ok ()) "now" =
          some ({ shardZeroMonitor.shortenSigs with SummarySnapshot := page.Summary, NoReplySnapshot := page.NoReply },
            .ok (.page page))) ∧
      ∀ e, (fun _ => .ok ()) shardZeroMonitor.chain = (.error e : Except String Unit) →
        shardZeroMonitor.renderReport .reference .insertion .insertion .insertion "v1" (fun _ => .ok ()) "now" =
          some (shardZeroMonitor.shortenSigs, .ok (.httpError ("could not generate page:" ++ e) 500)) :=
  renderReport_spec Linq.Query.reference_documented .insertion .insertion .insertion "v1" (fun _ => .ok ()) "now"
    shardZeroMonitor rfl (by rfl) (by decide)

def MonitorAction.rendered : MonitorAction → Option (List (String × Dict) × List NoReply)
  | .renderReport sum noReplies => some (sum, noReplies)
  | _ => none

def Monitor.reportSnapshot (m : Monitor) : List (String × Dict) × List NoReply :=
  (m.SummarySnapshot, m.NoReplySnapshot)

section Runs

variable {q : Linq.Query} {m m' : Monitor} {a : MonitorAction}

theorem critical_reportSnapshot {α : Type} {s : Section α}
    {g : List (String × Dict) × List NoReply → List (String × Dict) × List NoReply}
    (hbody : ∀ m, (s.body m).1.reportSnapshot = g m.reportSnapshot)
    (h : (m.critical s).map Prod.fst = some m') : m'.reportSnapshot = g m.reportSnapshot := by
  obtain ⟨⟨m₁, r⟩, hc, rfl⟩ := Option.map_eq_some_iff.mp h
  obtain ⟨-, -, rfl⟩ := critical_eq_some_iff.mp hc
  exact hbody _

theorem monitorStep_reportSnapshot (h : monitorStep q m a = some m') :
    m'.reportSnapshot = a.rendered.getD m.reportSnapshot := by
  cases a with
  | renderReport sum noReplies => exact critical_reportSnapshot (g := fun _ => (sum, noReplies)) (fun _ => rfl) h
  | collectMetadata c =>
    cases h
    rfl
  | collectBlockHeaders c =>
    cases h
    rfl
  | consensusStatus shard status =>
    cases h
    rfl
  | _ => exact critical_reportSnapshot (g := id) (fun _ => rfl) h

end Runs

section Records

variable {q : Linq.Query} {metas : List NodeMetadata} {headers : List BlockHeader}
  {sum : List (String × Dict)}

theorem index_metaSummary (hq : q.Documented) (metas : List NodeMetadata) (v : String) :
    (index (metaSummary q metas) v = .nil ∧ metas.filter (fun n => n.Payload.Version = v) = []) ∨
      index (metaSummary q metas) v =
        .map [("records", .slice ((metas.filter fun n => n.Payload.Version = v).map .nodeMetadata))] := by
  let φ : String × List NodeMetadata → String × GoValue :=
    fun g => (g.1, .map [("records", .slice (g.2.map .nodeMetadata))])
  have hkeys : ((q.groupBy (fun node : NodeMetadata => node.Payload.Version) metas).map φ).map Prod.fst =
      (q.groupBy (fun node : NodeMetadata => node.Payload.Version) metas).map Prod.fst := by
    rw [List.map_map]
    rfl
  rw [metaSummary_eq hq]
  by_cases hv : v ∈ metas.map fun n => n.Payload.Version
  · have hp : (v, metas.filter fun n => n.Payload.Version = v) ∈
        q.groupBy (fun node : NodeMetadata => node.Payload.Version) metas := (hq.mem_groupBy _).mpr ⟨hv, rfl⟩
    refine .inr ?_
    rw [index, GoMap.lookup_of_mem (by rw [hkeys]; exact hq.nodup_keys _ metas) (List.mem_map_of_mem (f := φ) hp)]
    rfl
  · have hnot : v ∉ (q.groupBy (fun node : NodeMetadata => node.Payload.Version) metas).map Prod.fst := by
      intro h
      obtain ⟨p, hp, rfl⟩ := List.mem_map.mp h
      exact hv ((hq.mem_groupBy _).mp hp).1
    refine .inl ⟨?_, List.filter_eq_nil_iff.mpr fun n hn hnv => hv (List.mem_map.mpr ⟨n, hn, by simpa using hnv⟩)⟩
    rw [index, (GoMap.lookup_eq_none_iff_keys _ v).mpr (by rw [hkeys]; exact hnot)]
    rfl

end Records

theorem produceCSV_after_render {q : Linq.Query} (hq : q.Documented) (metaOrd leaderOrd progressOrd : RangeOrder)
    (buildVersion : String) (parse : String → Except String Unit) (now chain : String) (m : Monitor)
    (hm : m.inUse = false)
    (hok : (summaryMaps q m.MetadataSnapshot.Nodes m.BlockHeaderSnapshot.Nodes).2.toBool = true)
    (hparse : parse m.chain = .ok ()) :
    ∃ m₁ page, m.renderReport q metaOrd leaderOrd progressOrd buildVersion parse now = some (m₁, .ok (.page page)) ∧
      ∀ (trace : List MonitorAction) (m₂ : Monitor), (∀ a ∈ trace, a.rendered = none) →
        (monitorLock q chain).run m₁ trace = some m₂ → m₂.inUse = false →
        (∀ n ∈ m.BlockHeaderSnapshot.Nodes, ∀ (query : List (String × List String)) (reports rest : List String),
          query.lookup "report" = some (blockHeaderReport :: reports) →
          query.lookup "shard" = some (shardKey n.Payload.ShardID :: rest) →
          ∃ rows, m₂.produceCSV query =
              some (m₂, .ok (.csv (blockHeaderReport ++ ".csv") (headerInformationCSVHeader :: rows))) ∧
            List.Forall₂ (fun h row => headerRow (shardKey n.Payload.ShardID) (.blockHeader h) = .ok row)
              ((m.BlockHeaderSnapshot.Nodes.map shortenHeader).filter fun c => c.Payload.ShardID = n.Payload.ShardID)
              rows) ∧
        ∀ (v : String) (query : List (String × List String)) (reports rest : List String),
          query.lookup "report" = some (nodeMetadataReport :: reports) →
          query.lookup "vrs" = some (v :: rest) →
          ∃ rows, m₂.produceCSV query =
              some (m₂, .ok (.csv (nodeMetadataReport ++ ".csv") (nodeMetadataCSVHeader :: rows))) ∧
            List.Forall₂ (fun n row => metadataRow (.nodeMetadata n) = .ok row)
              (m.MetadataSnapshot.Nodes.filter fun n => n.Payload.Version = v) rows := by
  obtain ⟨sum₀, sum₁, summary, hsum, hnet, -, hframe, hpage, -⟩ :=
    renderReport_ok hq metaOrd leaderOrd progressOrd buildVersion parse now hm hok
  refine ⟨_, _, hpage hparse, fun trace m₂ hnone hrun hfree => ?_⟩
  have hsnap : m₂.SummarySnapshot = summary := congrArg Prod.fst
    (Interleaving.System.run_view_eq_of_no_write Monitor.reportSnapshot MonitorAction.rendered
      (fun _ _ _ hs => monitorStep_reportSnapshot hs) hnone hrun)
  have hheaders : GoMap.index m₂.SummarySnapshot headerSumry [] = GoMap.index sum₁ headerSumry [] := by
    rw [hsnap]
    exact hframe headerSumry (by decide)
  have hmetas : GoMap.index m₂.SummarySnapshot metaSumry [] = metaSummary q m.MetadataSnapshot.Nodes := by
    rw [hsnap, hframe metaSumry (by decide), hnet.frame metaSumry (by decide), index_metaSumry_summaryMaps hq hsum]
  refine ⟨fun n hn query reports rest hr hs => ?_, fun v query reports rest hr hv => ?_⟩
  · obtain ⟨e, he, hspec⟩ := shardSummary_summaryMaps hq hsum (List.mem_map_of_mem hn)
    rw [shortenHeader_shardID] at he hspec
    obtain ⟨e', he', hother, -, -⟩ := hnet.entry _ e he
    refine produceCSV_of_header_records hfree hr hs (by rw [hheaders]; exact he') ?_
    rw [hother "records" (by decide) (by decide), hspec.records]
  · refine produceCSV_of_version_records hfree hr hv ?_
    rw [hmetas]
    exact index_metaSummary hq m.MetadataSnapshot.Nodes v

theorem produceCSV_after_render_shardZero :
    ∃ m₁ page, shardZeroMonitor.renderReport .reference .insertion .insertion .insertion "v1" (fun _ => .ok ()) "now" =
        some (m₁, .ok (.page page)) ∧
      ∀ (trace : List MonitorAction) (m₂ : Monitor), (∀ a ∈ trace, a.rendered = none) →
        (monitorLock .reference "mainnet").run m₁ trace = some m₂ → m₂.inUse = false →
        (∀ n ∈ shardZeroMonitor.BlockHeaderSnapshot.Nodes, ∀ (query : List (String × List String))
            (reports rest : List String),
          query.lookup "report" = some (blockHeaderReport :: reports) →
          query.lookup "shard" = some (shardKey n.Payload.ShardID :: rest) →
          ∃ rows, m₂.produceCSV query =
              some (m₂, .ok (.csv (blockHeaderReport ++ ".csv") (headerInformationCSVHeader :: rows))) ∧
            List.Forall₂ (fun h row => headerRow (shardKey n.Payload.ShardID) (.blockHeader h) = .ok row)
              ((shardZeroMonitor.BlockHeaderSnapshot.Nodes.map shortenHeader).filter
                fun c => c.Payload.ShardID = n.Payload.ShardID) rows) ∧
        ∀ (v : String) (query : List (String × List String)) (reports rest : List String),
          query.lookup "report" = some (nodeMetadataReport :: reports) →
          query.lookup "vrs" = some (v :: rest) →
          ∃ rows, m₂.produceCSV query =
              some (m₂, .ok (.csv (nodeMetadataReport ++ ".csv") (nodeMetadataCSVHeader :: rows))) ∧
            List.Forall₂ (fun n row => metadataRow (.nodeMetadata n) = .ok row)
              (shardZeroMonitor.MetadataSnapshot.Nodes.filter fun n => n.Payload.Version = v) rows :=
  produceCSV_after_render Linq.Query.reference_documented .insertion .insertion .insertion "v1" (fun _ => .ok ())
    "now" "mainnet" shardZeroMonitor rfl (by rfl) rfl

end Watchdog
