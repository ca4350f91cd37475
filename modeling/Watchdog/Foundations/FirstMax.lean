import Mathlib.Order.MinMax
import Mathlib.Data.List.Induction

namespace FirstMax

variable {α β : Type} [LinearOrder β]

theorem max?_append_singleton {l : List β} {m : β} (hl : l.max? = some m) (x : β) :
    (l ++ [x]).max? = some (max m x) := by
  obtain ⟨hm, hle⟩ := List.max?_eq_some_iff.mp hl
  refine List.max?_eq_some_iff.mpr ⟨?_, fun b hb => ?_⟩
  · rcases le_total m x with h | h
    · simp [max_eq_right h]
    · simp [max_eq_left h, hm]
  · rcases List.mem_append.mp hb with hb | hb
    · exact le_max_of_le_left (hle b hb)
    · rw [List.mem_singleton.mp hb]
      exact le_max_right m x

variable (f : α → β)

def firstMax (l : List α) : Option α :=
  (l.map f).max?.bind fun m => l.find? fun x => f x = m

def keep (best : Option α) (x : α) : Option α :=
  match best with
  | none => some x
  | some b => if f x ≤ f b then some b else some x

@[simp] theorem firstMax_nil : firstMax f [] = none := rfl

theorem exists_firstMax {l : List α} {m : β} (hl : (l.map f).max? = some m) :
    ∃ b, firstMax f l = some b ∧ f b = m ∧ b ∈ l ∧ ∀ x ∈ l, f x ≤ m := by
  obtain ⟨hm, hle⟩ := List.max?_eq_some_iff.mp hl
  obtain ⟨c, hc, hcm⟩ := List.mem_map.mp hm
  cases hfind : l.find? (fun x => f x = m) with
  | none => exact absurd hcm (by simpa using List.find?_eq_none.mp hfind c hc)
  | some b =>
    refine ⟨b, by simp [firstMax, hl, hfind], by simpa using List.find?_some hfind,
      List.mem_of_find?_eq_some hfind, fun x hx => hle (f x) (List.mem_map_of_mem hx)⟩

theorem mem_of_firstMax {l : List α} {b : α} (h : firstMax f l = some b) :
    b ∈ l ∧ ∀ x ∈ l, f x ≤ f b := by
  cases hl : (l.map f).max? with
  | none => simp [firstMax, hl] at h
  | some m =>
    obtain ⟨b', hb', hbm, hmem, hle⟩ := exists_firstMax f hl
    obtain rfl : b' = b := Option.some.inj (hb'.symm.trans h)
    exact ⟨hmem, hbm ▸ hle⟩

theorem firstMax_append_singleton (l : List α) (x : α) :
    firstMax f (l ++ [x]) = keep f (firstMax f l) x := by
  cases hl : (l.map f).max? with
  | none =>
    obtain rfl : l = [] := by simpa using hl
    simp [firstMax, keep]
  | some m =>
    obtain ⟨b, hb, hbm, -, hle⟩ := exists_firstMax f hl
    have hfind : l.find? (fun y => f y = m) = some b := by
      simpa [firstMax, hl] using hb
    have hmax : ((l ++ [x]).map f).max? = some (max m (f x)) := by
      rw [List.map_append, List.map_singleton]
      exact max?_append_singleton hl (f x)
    rw [hb, keep]
    by_cases hx : f x ≤ f b
    · rw [if_pos hx, firstMax, hmax, max_eq_left (hbm ▸ hx)]
      simp [List.find?_append, hfind]
    · have hlt : m < f x := hbm ▸ lt_of_not_ge hx
      have hnone : l.find? (fun y => f y = f x) = none :=
        List.find?_eq_none.mpr fun y hy => by simpa using ne_of_lt (lt_of_le_of_lt (hle y hy) hlt)
      rw [if_neg hx, firstMax, hmax, max_eq_right hlt.le]
      simp [List.find?_append, hnone]

theorem firstMax_append_le {l : List α} {b : α} (h : firstMax f l = some b) (l' : List α) :
    ∃ b', firstMax f (l ++ l') = some b' ∧ f b ≤ f b' := by
  induction l' using List.reverseRec with
  | nil => exact ⟨b, by simpa using h, le_rfl⟩
  | append_singleton l' x ih =>
    obtain ⟨b', hb', hle⟩ := ih
    rw [← List.append_assoc, firstMax_append_singleton, hb', keep]
    by_cases hx : f x ≤ f b'
    · exact ⟨b', by rw [if_pos hx], hle⟩
    · exact ⟨x, by rw [if_neg hx], hle.trans (le_of_lt (lt_of_not_ge hx))⟩

end FirstMax
