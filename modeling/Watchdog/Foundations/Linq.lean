import Mathlib.Data.List.Perm.Basic
import Mathlib.Data.List.Sort
import Mathlib.Order.Basic
import Mathlib.Order.MinMax
import Mathlib.Data.Finset.Card

namespace Linq

variable {α κ : Type}

theorem nodup_eraseDups [DecidableEq α] (l : List α) : l.eraseDups.Nodup := by
  induction h : l.length using Nat.strong_induction_on generalizing l with
  | _ n ih =>
    cases l with
    | nil => simp
    | cons a as =>
      rw [List.eraseDups_cons]
      have hlen : (as.filter fun b => !b == a).length < n := by
        have := List.length_filter_le (fun b => !b == a) as
        simp only [List.length_cons] at h
        omega
      refine List.nodup_cons.mpr ⟨?_, ih _ hlen _ rfl⟩
      simp [List.mem_eraseDups]

theorem length_eraseDups [DecidableEq α] (l : List α) : l.eraseDups.length = l.toFinset.card := by
  rw [List.card_toFinset]
  refine ((List.perm_ext_iff_of_nodup (nodup_eraseDups l) (List.nodup_dedup l)).mpr fun a => ?_).length_eq
  rw [List.mem_eraseDups, List.mem_dedup]

def groups [DecidableEq κ] (key : α → κ) (xs : List α) : List (κ × List α) :=
  (xs.map key).eraseDups.map fun k => (k, xs.filter fun x => key x = k)

section Groups

variable [DecidableEq κ] (key : α → κ)

theorem keys_groups (xs : List α) : (groups key xs).map Prod.fst = (xs.map key).eraseDups := by
  simp [groups, Function.comp_def]

theorem nodup_keys_groups (xs : List α) : ((groups key xs).map Prod.fst).Nodup := by
  rw [keys_groups]
  exact nodup_eraseDups _

theorem mem_groups {xs : List α} {p : κ × List α} :
    p ∈ groups key xs ↔ p.1 ∈ xs.map key ∧ p.2 = xs.filter fun x => key x = p.1 := by
  obtain ⟨k, g⟩ := p
  simp only [groups, List.mem_map, List.mem_eraseDups, Prod.mk.injEq]
  constructor
  · rintro ⟨k', ⟨x, hx, rfl⟩, rfl, rfl⟩
    exact ⟨⟨x, hx, rfl⟩, rfl⟩
  · rintro ⟨⟨x, hx, rfl⟩, hg⟩
    exact ⟨key x, ⟨x, hx, rfl⟩, rfl, hg.symm⟩

theorem flatMap_filter_perm (ks : List κ) (hks : ks.Nodup) :
    ∀ (xs : List α), (∀ x ∈ xs, key x ∈ ks) →
      (ks.flatMap fun k => xs.filter fun x => key x = k).Perm xs := by
  induction ks with
  | nil =>
    intro xs hxs
    cases xs with
    | nil => simp
    | cons x _ => exact absurd (hxs x List.mem_cons_self) (List.not_mem_nil)
  | cons k ks ih =>
    intro xs hxs
    obtain ⟨hk, hnd⟩ := List.nodup_cons.mp hks
    have hrest : (ks.flatMap fun k' => xs.filter fun x => key x = k') =
        ks.flatMap fun k' => (xs.filter fun x => !decide (key x = k)).filter fun x => key x = k' := by
      refine List.flatMap_congr fun k' hk' => ?_
      rw [List.filter_filter]
      refine List.filter_congr fun x _ => ?_
      by_cases hx : key x = k'
      · have hne : k' ≠ k := fun h => hk (h ▸ hk')
        simp [hx, hne]
      · simp [hx]
    have hsub : ∀ x ∈ xs.filter (fun x => !decide (key x = k)), key x ∈ ks := by
      intro x hx
      simp only [List.mem_filter, Bool.not_eq_eq_eq_not, Bool.not_true,
        decide_eq_false_iff_not] at hx
      exact (List.mem_cons.mp (hxs x hx.1)).resolve_left hx.2
    rw [List.flatMap_cons, hrest]
    exact ((ih hnd _ hsub).append_left _).trans (List.filter_append_perm _ xs)

theorem flatMap_groups_perm (xs : List α) : ((groups key xs).flatMap Prod.snd).Perm xs := by
  rw [groups, List.flatMap_map]
  exact flatMap_filter_perm key _ (nodup_eraseDups _) xs fun x hx =>
    List.mem_eraseDups.mpr (List.mem_map_of_mem hx)

end Groups

structure Query where
  groupBy : {α κ : Type} → [DecidableEq κ] → (α → κ) → List α → List (κ × List α)
  distinct : {α : Type} → [DecidableEq α] → List α → List α
  max : {α : Type} → [LinearOrder α] → List α → Option α
  min : {α : Type} → [LinearOrder α] → List α → Option α
  firstWith : {α : Type} → (α → Bool) → List α → Option α

structure Query.Documented (q : Query) : Prop where
  groupBy_perm : ∀ {α κ : Type} [DecidableEq κ] (key : α → κ) (xs : List α),
    (q.groupBy key xs).Perm (groups key xs)
  distinct_eq : ∀ {α : Type} [DecidableEq α] (xs : List α), q.distinct xs = xs.eraseDups
  max_eq : ∀ {α : Type} [LinearOrder α] (xs : List α), q.max xs = xs.max?
  min_eq : ∀ {α : Type} [LinearOrder α] (xs : List α), q.min xs = xs.min?
  firstWith_eq : ∀ {α : Type} (p : α → Bool) (xs : List α), q.firstWith p xs = xs.find? p

def Query.reference : Query where
  groupBy key xs := groups key xs
  distinct xs := xs.eraseDups
  max xs := xs.max?
  min xs := xs.min?
  firstWith p xs := xs.find? p

theorem Query.reference_documented : Query.reference.Documented where
  groupBy_perm _ _ := List.Perm.refl _
  distinct_eq _ := rfl
  max_eq _ := rfl
  min_eq _ := rfl
  firstWith_eq _ _ := rfl

namespace Query.Documented

variable {q q₁ q₂ : Query} [DecidableEq κ]

theorem mem_groupBy (hq : q.Documented) (key : α → κ) {xs : List α} {p : κ × List α} :
    p ∈ q.groupBy key xs ↔ p.1 ∈ xs.map key ∧ p.2 = xs.filter fun x => key x = p.1 :=
  (hq.groupBy_perm key xs).mem_iff.trans (mem_groups key)

theorem nodup_keys (hq : q.Documented) (key : α → κ) (xs : List α) :
    ((q.groupBy key xs).map Prod.fst).Nodup :=
  ((hq.groupBy_perm key xs).map Prod.fst).nodup_iff.mpr (nodup_keys_groups key xs)

theorem groupBy_perm_groupBy (hq₁ : q₁.Documented) (hq₂ : q₂.Documented) (key : α → κ) (xs : List α) :
    (q₁.groupBy key xs).Perm (q₂.groupBy key xs) :=
  (hq₁.groupBy_perm key xs).trans (hq₂.groupBy_perm key xs).symm

end Query.Documented

end Linq

namespace GoSort

variable {α : Type}

def sliceStable (less : α → α → Bool) (xs : List α) : List α :=
  xs.mergeSort fun a b => !less b a

theorem sliceStable_perm (less : α → α → Bool) (xs : List α) : (sliceStable less xs).Perm xs :=
  List.mergeSort_perm xs _

theorem sliceStable_desc [LinearOrder α] (xs : List α) :
    (sliceStable (fun a b => decide (a > b)) xs).Pairwise (· ≥ ·) := by
  have htrans : ∀ a b c : α, (!decide (b > a)) = true → (!decide (c > b)) = true →
      (!decide (c > a)) = true := by
    intro a b c hab hbc
    simp only [Bool.not_eq_eq_eq_not, Bool.not_true, decide_eq_false_iff_not, not_lt] at *
    exact le_trans hbc hab
  have htotal : ∀ a b : α, ((!decide (b > a)) || !decide (a > b)) = true := by
    intro a b
    simp only [Bool.or_eq_true, Bool.not_eq_eq_eq_not, Bool.not_true, decide_eq_false_iff_not,
      not_lt]
    exact le_total b a
  have h : (xs.mergeSort fun a b : α => !decide (b > a)).Pairwise fun a b => !decide (b > a) :=
    List.pairwise_mergeSort htrans htotal xs
  refine h.imp fun hab => ?_
  simpa using hab

theorem sliceStable_strictDesc [LinearOrder α] {xs : List α} (hxs : xs.Nodup) :
    (sliceStable (fun a b => decide (a > b)) xs).Pairwise (· > ·) := by
  have hnd : (sliceStable (fun a b => decide (a > b)) xs).Nodup :=
    (sliceStable_perm _ xs).nodup_iff.mpr hxs
  exact (sliceStable_desc xs).imp₂ (fun _ _ hab hne => lt_of_le_of_ne hab (Ne.symm hne)) hnd

theorem head?_of_pairwise_gt [LinearOrder α] {l xs : List α} {mx : α} (hl : l.Pairwise (· > ·))
    (hmem : ∀ b, b ∈ l ↔ b ∈ xs) (hmx : xs.max? = some mx) : l.head? = some mx := by
  obtain ⟨hin, hle⟩ := List.max?_eq_some_iff.mp hmx
  cases l with
  | nil => exact absurd ((hmem mx).mpr hin) List.not_mem_nil
  | cons a rest =>
    obtain ⟨hgt, -⟩ := List.pairwise_cons.mp hl
    have ha : a ≤ mx := hle a ((hmem a).mp List.mem_cons_self)
    rcases List.mem_cons.mp ((hmem mx).mpr hin) with h | h
    · simp [h]
    · exact absurd (lt_of_le_of_lt ha (hgt mx h)) (lt_irrefl a)

theorem getLast?_of_pairwise_gt [LinearOrder α] {l xs : List α} {mn : α} (hl : l.Pairwise (· > ·))
    (hmem : ∀ b, b ∈ l ↔ b ∈ xs) (hmn : xs.min? = some mn) : l.getLast? = some mn := by
  have hrev : l.reverse.Pairwise (· < ·) := by
    rw [List.pairwise_reverse]
    exact hl
  obtain ⟨hin, hle⟩ := List.min?_eq_some_iff.mp hmn
  rw [List.getLast?_eq_head?_reverse]
  cases hr : l.reverse with
  | nil => exact absurd (List.mem_reverse.mpr ((hmem mn).mpr hin)) (by simp [hr])
  | cons a rest =>
    rw [hr] at hrev
    obtain ⟨hlt, -⟩ := List.pairwise_cons.mp hrev
    have hal : a ∈ l := List.mem_reverse.mp (hr ▸ List.mem_cons_self)
    have ha : mn ≤ a := hle a ((hmem a).mp hal)
    have hmnr : mn ∈ a :: rest := hr ▸ List.mem_reverse.mpr ((hmem mn).mpr hin)
    rcases List.mem_cons.mp hmnr with h | h
    · simp [h]
    · exact absurd (lt_of_lt_of_le (hlt mn h) ha) (lt_irrefl a)

theorem max?_congr [LinearOrder α] {l l' : List α} (h : ∀ x, x ∈ l ↔ x ∈ l') : l.max? = l'.max? := by
  cases hl : l.max? with
  | none =>
    have hnil : l = [] := List.max?_eq_none_iff.mp hl
    have hnil' : l' = [] := List.eq_nil_iff_forall_not_mem.mpr fun x hx => by
      simpa [hnil] using (h x).mpr hx
    simp [hnil']
  | some m =>
    obtain ⟨hin, hle⟩ := List.max?_eq_some_iff.mp hl
    exact (List.max?_eq_some_iff.mpr ⟨(h m).mp hin, fun b hb => hle b ((h b).mpr hb)⟩).symm

theorem exists_max?_of_ne_nil [LinearOrder α] {xs : List α} (h : xs ≠ []) : ∃ m, xs.max? = some m := by
  cases hm : xs.max? with
  | none => exact absurd (List.max?_eq_none_iff.mp hm) h
  | some m => exact ⟨m, rfl⟩

theorem exists_min?_of_ne_nil [LinearOrder α] {xs : List α} (h : xs ≠ []) : ∃ m, xs.min? = some m := by
  cases hm : xs.min? with
  | none => exact absurd (List.min?_eq_none_iff.mp hm) h
  | some m => exact ⟨m, rfl⟩

end GoSort
