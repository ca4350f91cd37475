import Mathlib.Data.List.Basic

namespace Interleaving

variable {σ α : Type}

structure System (σ α : Type) where
  init : σ
  step : σ → α → Option σ

namespace System

variable (S : System σ α)

def run : σ → List α → Option σ
  | s, [] => some s
  | s, a :: as => (S.step s a).bind fun s' => run s' as

def Reachable (s : σ) : Prop := ∃ trace, S.run S.init trace = some s

def Stuck (s : σ) : Prop := ∀ a, S.step s a = none

def Inductive (I : σ → Prop) : Prop := ∀ s a s', I s → S.step s a = some s' → I s'

variable {S}

@[simp] theorem run_nil (s : σ) : S.run s [] = some s := rfl

theorem run_cons (s : σ) (a : α) (as : List α) :
    S.run s (a :: as) = (S.step s a).bind fun s' => S.run s' as := rfl

theorem run_cons_of_step {s s' : σ} {a : α} (h : S.step s a = some s') (as : List α) :
    S.run s (a :: as) = S.run s' as := by
  simp [run_cons, h]

theorem run_cons_eq_some {s s'' : σ} {a : α} {as : List α} :
    S.run s (a :: as) = some s'' ↔ ∃ s', S.step s a = some s' ∧ S.run s' as = some s'' := by
  simp [run_cons, Option.bind_eq_some_iff]

theorem run_append (s : σ) (xs ys : List α) :
    S.run s (xs ++ ys) = (S.run s xs).bind fun s' => S.run s' ys := by
  induction xs generalizing s with
  | nil => rfl
  | cons a xs ih =>
    cases h : S.step s a with
    | none => simp [run_cons, h]
    | some s' => simp [run_cons, h, ih]

theorem run_singleton {s s' : σ} {a : α} (h : S.step s a = some s') : S.run s [a] = some s' := by
  simp [run_cons, h]

theorem Reachable.step {s s' : σ} {a : α} (hs : S.Reachable s) (h : S.step s a = some s') :
    S.Reachable s' := by
  obtain ⟨trace, htrace⟩ := hs
  exact ⟨trace ++ [a], by rw [run_append, htrace]; exact run_singleton h⟩

theorem Reachable.run {s s' : σ} {trace : List α} (hs : S.Reachable s)
    (h : S.run s trace = some s') : S.Reachable s' := by
  obtain ⟨pre, hpre⟩ := hs
  exact ⟨pre ++ trace, by rw [run_append, hpre]; exact h⟩

theorem Inductive.run {I : σ → Prop} (hI : S.Inductive I) :
    ∀ {trace : List α} {s s' : σ}, I s → S.run s trace = some s' → I s'
  | [], s, s', hs, h => by
    simp only [run_nil, Option.some.injEq] at h
    exact h ▸ hs
  | a :: as, s, s', hs, h => by
    obtain ⟨t, hstep, hrest⟩ := run_cons_eq_some.mp h
    exact Inductive.run hI (hI s a t hs hstep) hrest

theorem Inductive.reachable {I : σ → Prop} (hI : S.Inductive I) (h0 : I S.init) {s : σ}
    (hs : S.Reachable s) : I s := by
  obtain ⟨trace, htrace⟩ := hs
  exact hI.run h0 htrace

theorem run_view_eq_lastWrite {β : Type} (view : σ → β) (write : α → Option β)
    (hstep : ∀ s a s', S.step s a = some s' → view s' = (write a).getD (view s)) :
    ∀ {trace : List α} {s s' : σ}, S.run s trace = some s' →
      view s' = ((trace.filterMap write).getLast?).getD (view s)
  | [], s, s', h => by
    simp only [run_nil, Option.some.injEq] at h
    simp [h]
  | a :: as, s, s', h => by
    obtain ⟨t, ht, hrest⟩ := run_cons_eq_some.mp h
    rw [run_view_eq_lastWrite view write hstep hrest, hstep s a t ht]
    cases hw : write a with
    | none => rw [List.filterMap_cons_none hw, Option.getD_none]
    | some b => rw [List.filterMap_cons_some hw, List.getLast?_cons, Option.getD_some, Option.getD_some]

theorem run_view_eq_of_no_write {β : Type} (view : σ → β) (write : α → Option β)
    (hstep : ∀ s a s', S.step s a = some s' → view s' = (write a).getD (view s)) {trace : List α}
    (hnone : ∀ a ∈ trace, write a = none) {s s' : σ} (h : S.run s trace = some s') : view s' = view s := by
  rw [run_view_eq_lastWrite view write hstep h, List.filterMap_eq_nil_iff.mpr hnone]
  rfl

theorem run_length_le (μ : σ → ℕ) (hμ : ∀ s a s', S.step s a = some s' → μ s' < μ s) :
    ∀ {trace : List α} {s s' : σ}, S.run s trace = some s' → trace.length + μ s' ≤ μ s
  | [], s, s', h => by
    simp only [run_nil, Option.some.injEq] at h
    simp [h]
  | a :: as, s, s', h => by
    obtain ⟨t, hstep, hrest⟩ := run_cons_eq_some.mp h
    have hlen := run_length_le μ hμ hrest
    have hlt := hμ s a t hstep
    simp only [List.length_cons]
    omega

theorem Reachable.final_of_stuck {I Final : σ → Prop} (hI : S.Inductive I) (h0 : I S.init)
    (hprogress : ∀ s, I s → ¬ Final s → ∃ a s', S.step s a = some s') {s : σ}
    (hs : S.Reachable s) (hstuck : S.Stuck s) : Final s := by
  by_contra hfinal
  obtain ⟨a, s', hstep⟩ := hprogress s (hI.reachable h0 hs) hfinal
  rw [hstuck a] at hstep
  cases hstep

end System

end Interleaving
