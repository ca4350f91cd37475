import Mathlib.Data.List.ReduceOption
import Mathlib.Order.MinMax

namespace RunningMax

variable {α : Type} [LinearOrder α]

def step (p : α) : Option α → α × Option α
  | some e => if p < e then (e, some e) else (p, none)
  | none => (p, none)

def scan : α → List (Option α) → α × List (Option α)
  | p, [] => (p, [])
  | p, o :: os =>
    let r := step p o
    let rest := scan r.1 os
    (rest.1, r.2 :: rest.2)

section Step

variable (p : α)

theorem step_fst (o : Option α) : (step p o).1 = o.elim p (max p) := by
  cases o with
  | none => rfl
  | some e =>
    by_cases h : p < e
    · simp [step, h, max_eq_right h.le]
    · simp [step, h, max_eq_left (not_lt.mp h)]

theorem le_step_fst (o : Option α) : p ≤ (step p o).1 := by
  rw [step_fst]
  cases o <;> simp

theorem step_snd_eq_some {o : Option α} {e : α} : (step p o).2 = some e ↔ o = some e ∧ p < e := by
  cases o with
  | none => simp [step]
  | some e' =>
    by_cases h : p < e'
    · simp only [step, h, if_true, Option.some.injEq]
      constructor
      · rintro rfl; exact ⟨rfl, h⟩
      · rintro ⟨rfl, -⟩; rfl
    · simp only [step, h, if_false, reduceCtorEq, false_iff, not_and, Option.some.injEq]
      rintro rfl; exact h

theorem step_fst_of_snd_eq_none {o : Option α} (h : (step p o).2 = none) : (step p o).1 = p := by
  cases o with
  | none => rfl
  | some e =>
    by_cases hlt : p < e
    · simp [step, hlt] at h
    · simp [step, hlt]

theorem step_fst_of_snd_eq_some {o : Option α} {e : α} (h : (step p o).2 = some e) : (step p o).1 = e := by
  obtain ⟨rfl, hlt⟩ := (step_snd_eq_some p).mp h
  simp [step, hlt]

theorem step_fst_lt_iff (o : Option α) (e : α) :
    (step p o).1 < e ↔ p < e ∧ ∀ e', o = some e' → e' < e := by
  rw [step_fst]
  cases o with
  | none => simp
  | some e' => simp

end Step

@[simp] theorem scan_nil (p : α) : scan p [] = (p, []) := rfl

theorem scan_cons (p : α) (o : Option α) (os : List (Option α)) :
    scan p (o :: os) = ((scan (step p o).1 os).1, (step p o).2 :: (scan (step p o).1 os).2) := rfl

theorem length_scan (p : α) (os : List (Option α)) : (scan p os).2.length = os.length := by
  induction os generalizing p with
  | nil => rfl
  | cons o os ih => simp [scan_cons, ih]

theorem reduceOption_scan_cons (p : α) (o : Option α) (os : List (Option α)) :
    (scan p (o :: os)).2.reduceOption =
      (step p o).2.toList ++ (scan (step p o).1 os).2.reduceOption := by
  rw [scan_cons]
  cases (step p o).2 <;> simp

theorem lt_of_mem_records {p e : α} {os : List (Option α)} (h : e ∈ (scan p os).2.reduceOption) :
    p < e := by
  induction os generalizing p with
  | nil => simp at h
  | cons o os ih =>
    rw [reduceOption_scan_cons, List.mem_append] at h
    rcases h with h | h
    · exact ((step_snd_eq_some p).mp (Option.mem_toList.mp h)).2
    · exact lt_of_le_of_lt (le_step_fst p o) (ih h)

theorem records_pairwise (p : α) (os : List (Option α)) :
    (scan p os).2.reduceOption.Pairwise (· < ·) := by
  induction os generalizing p with
  | nil => simp
  | cons o os ih =>
    rw [reduceOption_scan_cons]
    cases hs : (step p o).2 with
    | none => simpa using ih (step p o).1
    | some e =>
      have hmax := step_fst_of_snd_eq_some p hs
      refine List.pairwise_cons.mpr ⟨fun e' he' => ?_, ih _⟩
      exact hmax ▸ lt_of_mem_records he'

theorem scan_fst_eq_getLast (p : α) (os : List (Option α)) :
    (scan p os).1 = ((scan p os).2.reduceOption.getLast?).getD p := by
  induction os generalizing p with
  | nil => rfl
  | cons o os ih =>
    rw [reduceOption_scan_cons, scan_cons, ih]
    cases hs : (step p o).2 with
    | none => simp [step_fst_of_snd_eq_none p hs]
    | some e => simp [step_fst_of_snd_eq_some p hs, List.getLast?_cons]

theorem getElem?_scan (p : α) (os : List (Option α)) (i : ℕ) (e : α) :
    (scan p os).2[i]? = some (some e) ↔
      os[i]? = some (some e) ∧ p < e ∧ ∀ j < i, ∀ e', os[j]? = some (some e') → e' < e := by
  induction os generalizing p i with
  | nil => simp
  | cons o os ih =>
    cases i with
    | zero => simp [scan_cons, step_snd_eq_some]
    | succ i =>
      rw [scan_cons, List.getElem?_cons_succ, ih, step_fst_lt_iff, List.getElem?_cons_succ]
      simp only [Nat.forall_lt_succ_left', List.getElem?_cons_zero, Option.some.injEq,
        List.getElem?_cons_succ]
      tauto

end RunningMax
