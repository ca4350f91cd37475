import Mathlib

namespace GoMap

structure RangeOrder where
  arrange : {α : Type} → List α → List α
  perm : ∀ {α : Type} (l : List α), (arrange l).Perm l

theorem exists_perm_map_eq {α β : Type} (f : α → β) :
    ∀ (l : List α) {l' : List β}, (l.map f).Perm l' → ∃ l₀ : List α, l₀.Perm l ∧ l' = l₀.map f
  | [], l', h => ⟨[], .nil, (List.Perm.nil_eq h).symm⟩
  | a :: l, l', h => by
    obtain ⟨s, t, rfl⟩ := List.append_of_mem (h.subset List.mem_cons_self)
    obtain ⟨l₁, hl₁, heq⟩ := exists_perm_map_eq f l (h.trans List.perm_middle).cons_inv
    refine ⟨l₁.take s.length ++ a :: l₁.drop s.length, ?_, ?_⟩
    · refine List.perm_middle.trans ?_
      rw [List.take_append_drop]
      exact hl₁.cons a
    · have hs : (l₁.take s.length).map f = s := by
        rw [List.map_take, ← heq, List.take_left]
      have ht : (l₁.drop s.length).map f = t := by
        rw [List.map_drop, ← heq, List.drop_left]
      rw [List.map_append, List.map_cons, hs, ht]

namespace RangeOrder

def insertion : RangeOrder := ⟨id, List.Perm.refl⟩

variable (ord : RangeOrder) {α : Type}

@[simp] theorem mem_arrange {l : List α} {a : α} : a ∈ ord.arrange l ↔ a ∈ l :=
  (ord.perm l).mem_iff

theorem exists_arrange_map {β : Type} (f : α → β) (l : List α) :
    ∃ l₀ : List α, l₀.Perm l ∧ ord.arrange (l.map f) = l₀.map f :=
  exists_perm_map_eq f l (ord.perm _).symm

end RangeOrder

variable {κ ν : Type} [DecidableEq κ]

def set : List (κ × ν) → κ → ν → List (κ × ν)
  | [], k, v => [(k, v)]
  | p :: m, k, v => if p.1 = k then (k, v) :: m else p :: set m k v

def index (m : List (κ × ν)) (k : κ) (zero : ν) : ν := (m.lookup k).getD zero

theorem lookup_cons_eq_ite (p : κ × ν) (m : List (κ × ν)) (k : κ) :
    (p :: m).lookup k = if p.1 = k then some p.2 else m.lookup k := by
  obtain ⟨a, b⟩ := p
  by_cases h : a = k
  · subst h; simp [List.lookup]
  · have hne : (k == a) = false := beq_false_of_ne (Ne.symm h)
    simp [List.lookup, h, hne]

@[simp] theorem lookup_set_self (m : List (κ × ν)) (k : κ) (v : ν) :
    (set m k v).lookup k = some v := by
  induction m with
  | nil => simp [set, lookup_cons_eq_ite]
  | cons p m ih =>
    by_cases hp : p.1 = k
    · simp [set, hp, lookup_cons_eq_ite]
    · simp [set, hp, lookup_cons_eq_ite, ih]

theorem lookup_set_of_ne (m : List (κ × ν)) {k k' : κ} (h : k' ≠ k) (v : ν) :
    (set m k v).lookup k' = m.lookup k' := by
  induction m with
  | nil => simp [set, lookup_cons_eq_ite, Ne.symm h]
  | cons p m ih =>
    by_cases hp : p.1 = k
    · simp [set, hp, lookup_cons_eq_ite, Ne.symm h]
    · simp only [set, hp, if_false, lookup_cons_eq_ite, ih]

@[simp] theorem set_set_self (m : List (κ × ν)) (k : κ) (v v' : ν) : set (set m k v) k v' = set m k v' := by
  induction m with
  | nil => simp [set]
  | cons p m ih =>
    by_cases hp : p.1 = k
    · simp [set, hp]
    · simp [set, hp, ih]

theorem keys_set (m : List (κ × ν)) (k : κ) (v : ν) :
    (set m k v).map Prod.fst = if k ∈ m.map Prod.fst then m.map Prod.fst else m.map Prod.fst ++ [k] := by
  induction m with
  | nil => simp [set]
  | cons p m ih =>
    by_cases hp : p.1 = k
    · simp [set, hp]
    · by_cases hk : k ∈ m.map Prod.fst
      · simp [set, hp, ih, hk]
      · simp [set, hp, ih, hk, Ne.symm hp]

theorem nodup_keys_set {m : List (κ × ν)} (hm : (m.map Prod.fst).Nodup) (k : κ) (v : ν) :
    ((set m k v).map Prod.fst).Nodup := by
  rw [keys_set]
  split
  · exact hm
  · rename_i hk
    exact (List.perm_append_singleton k _).nodup_iff.mpr (List.nodup_cons.mpr ⟨hk, hm⟩)

theorem mem_keys_set (m : List (κ × ν)) (k k' : κ) (v : ν) :
    k' ∈ (set m k v).map Prod.fst ↔ k' = k ∨ k' ∈ m.map Prod.fst := by
  rw [keys_set]
  split
  · rename_i hk
    constructor
    · exact Or.inr
    · rintro (rfl | h)
      · exact hk
      · exact h
  · simp [or_comm]

@[simp] theorem index_nil (k : κ) (zero : ν) : index ([] : List (κ × ν)) k zero = zero := rfl

@[simp] theorem index_set_self (m : List (κ × ν)) (k : κ) (v zero : ν) :
    index (set m k v) k zero = v := by
  simp [index]

theorem index_set_of_ne (m : List (κ × ν)) {k k' : κ} (h : k' ≠ k) (v zero : ν) :
    index (set m k v) k' zero = index m k' zero := by
  simp [index, lookup_set_of_ne m h]

theorem lookup_of_mem {m : List (κ × ν)} (hm : (m.map Prod.fst).Nodup) {k : κ} {v : ν}
    (h : (k, v) ∈ m) : m.lookup k = some v := by
  induction m with
  | nil => cases h
  | cons p m ih =>
    rw [List.map_cons] at hm
    obtain ⟨hp, hnd⟩ := List.nodup_cons.mp hm
    rw [lookup_cons_eq_ite]
    rcases List.mem_cons.mp h with rfl | h
    · simp
    · have hne : p.1 ≠ k := by
        intro he
        apply hp
        rw [he]
        exact List.mem_map_of_mem h
      rw [if_neg hne]
      exact ih hnd h

theorem mem_of_lookup {m : List (κ × ν)} {k : κ} {v : ν} (h : m.lookup k = some v) : (k, v) ∈ m := by
  induction m with
  | nil => cases h
  | cons p m ih =>
    rw [lookup_cons_eq_ite] at h
    split_ifs at h with hp
    · cases h
      rw [← hp]
      exact List.mem_cons_self
    · exact List.mem_cons_of_mem _ (ih h)

theorem lookup_eq_none_iff_keys (m : List (κ × ν)) (k : κ) : m.lookup k = none ↔ k ∉ m.map Prod.fst := by
  simp only [List.lookup_eq_none_iff, bne_iff_ne, ne_eq, List.mem_map, not_exists, not_and]
  exact ⟨fun h p hp hk => h p hp hk.symm, fun h p hp hk => h p hp hk.symm⟩

theorem filterMap_perm_keys {β : Type} (F : κ × ν → Option β) {m : List (κ × ν)}
    (hm : (m.map Prod.fst).Nodup) {ks : List κ} (hks : (m.map Prod.fst).Perm ks) (zero : ν) :
    (m.filterMap F).Perm (ks.filterMap fun k => F (k, index m k zero)) := by
  have hcongr : m.filterMap F = (m.map Prod.fst).filterMap fun k => F (k, index m k zero) := by
    rw [List.filterMap_map]
    apply List.filterMap_congr
    rintro ⟨k, v⟩ hkv
    simp [index, lookup_of_mem hm hkv]
  rw [hcongr]
  exact hks.filterMap _

theorem set_of_not_mem_keys {m : List (κ × ν)} {k : κ} (hk : k ∉ m.map Prod.fst) (v : ν) :
    set m k v = m ++ [(k, v)] := by
  induction m with
  | nil => rfl
  | cons p m ih =>
    have hp : p.1 ≠ k := fun h => hk (h ▸ List.mem_cons_self)
    rw [set, if_neg hp, ih fun h => hk (List.mem_cons_of_mem _ h), List.cons_append]

section Fold

variable {β : Type} (f : β → κ) (g : β → ν)

theorem lookup_foldl_set_of_not_mem (xs : List β) (m : List (κ × ν)) {k : κ}
    (hk : ∀ x ∈ xs, f x ≠ k) :
    (xs.foldl (fun acc x => set acc (f x) (g x)) m).lookup k = m.lookup k := by
  induction xs generalizing m with
  | nil => rfl
  | cons x xs ih =>
    rw [List.foldl_cons, ih _ fun y hy => hk y (List.mem_cons_of_mem x hy)]
    exact lookup_set_of_ne m (hk x List.mem_cons_self).symm (g x)

theorem lookup_foldl_set_of_mem (xs : List β) (hxs : (xs.map f).Nodup) (m : List (κ × ν))
    {x : β} (hx : x ∈ xs) :
    (xs.foldl (fun acc y => set acc (f y) (g y)) m).lookup (f x) = some (g x) := by
  induction xs generalizing m with
  | nil => cases hx
  | cons y xs ih =>
    rw [List.map_cons] at hxs
    obtain ⟨hy, hnd⟩ := List.nodup_cons.mp hxs
    rw [List.foldl_cons]
    rcases List.mem_cons.mp hx with rfl | hx
    · have hfresh : ∀ z ∈ xs, f z ≠ f x := by
        intro z hz hfz
        exact hy (by rw [← hfz]; exact List.mem_map_of_mem hz)
      rw [lookup_foldl_set_of_not_mem f g xs _ hfresh]
      exact lookup_set_self m (f x) (g x)
    · exact ih hnd _ hx

theorem foldl_set_of_fresh (xs : List β) (hxs : (xs.map f).Nodup) (m : List (κ × ν))
    (hfresh : ∀ x ∈ xs, f x ∉ m.map Prod.fst) :
    xs.foldl (fun acc x => set acc (f x) (g x)) m = m ++ xs.map fun x => (f x, g x) := by
  induction xs generalizing m with
  | nil => simp
  | cons x xs ih =>
    rw [List.map_cons] at hxs
    obtain ⟨hx, hnd⟩ := List.nodup_cons.mp hxs
    rw [List.foldl_cons, set_of_not_mem_keys (hfresh x List.mem_cons_self)]
    have hfresh' : ∀ y ∈ xs, f y ∉ (m ++ [(f x, g x)]).map Prod.fst := by
      intro y hy hmem
      rw [List.map_append, List.mem_append] at hmem
      rcases hmem with hmem | hmem
      · exact hfresh y (List.mem_cons_of_mem x hy) hmem
      · have hyx : f y = f x := by simpa using hmem
        exact hx (hyx ▸ List.mem_map_of_mem hy)
    rw [ih hnd _ hfresh']
    simp

theorem lookup_foldl_set_perm {xs ys : List β} (hp : xs.Perm ys) (hxs : (xs.map f).Nodup)
    (m : List (κ × ν)) (k : κ) :
    (xs.foldl (fun acc x => set acc (f x) (g x)) m).lookup k =
      (ys.foldl (fun acc x => set acc (f x) (g x)) m).lookup k := by
  by_cases hk : ∃ x ∈ xs, f x = k
  · obtain ⟨x, hx, rfl⟩ := hk
    have hys : (ys.map f).Nodup := (hp.map f).nodup_iff.mp hxs
    rw [lookup_foldl_set_of_mem f g xs hxs m hx, lookup_foldl_set_of_mem f g ys hys m (hp.mem_iff.mp hx)]
  · have hxs' : ∀ x ∈ xs, f x ≠ k := fun x hx hfx => hk ⟨x, hx, hfx⟩
    have hys' : ∀ y ∈ ys, f y ≠ k := fun y hy => hxs' y (hp.mem_iff.mpr hy)
    rw [lookup_foldl_set_of_not_mem f g xs m hxs', lookup_foldl_set_of_not_mem f g ys m hys']

theorem lookup_foldl_set_self (xs : List β) (k : κ) (m : List (κ × ν)) :
    (xs.foldl (fun acc x => set acc k (g x)) m).lookup k = (xs.getLast?.map g).or (m.lookup k) := by
  induction xs generalizing m with
  | nil => simp
  | cons x xs ih =>
    rw [List.foldl_cons, ih, lookup_set_self, List.getLast?_cons]
    cases xs.getLast? <;> rfl

end Fold

section Multimap

variable {β : Type}

def appendAt (m : List (κ × List ν)) (k : κ) (v : ν) : List (κ × List ν) :=
  set m k (index m k [] ++ [v])

theorem index_appendAt (m : List (κ × List ν)) (k k' : κ) (v : ν) :
    index (appendAt m k v) k' [] = index m k' [] ++ if k = k' then [v] else [] := by
  by_cases h : k = k'
  · subst h
    simp [appendAt]
  · simp [appendAt, index_set_of_ne m (Ne.symm h), h]

theorem index_foldl_appendAt (f : β → Option (κ × ν)) (xs : List β) (m : List (κ × List ν)) (k : κ) :
    index (xs.foldl (fun m x => (f x).elim m fun p => appendAt m p.1 p.2) m) k [] =
      index m k [] ++ ((xs.filterMap f).filter fun p => p.1 = k).map Prod.snd := by
  induction xs generalizing m with
  | nil => simp
  | cons x xs ih =>
    rw [List.foldl_cons, ih]
    cases hx : f x with
    | none => simp [hx]
    | some p => by_cases hp : p.1 = k <;> simp [hx, index_appendAt, hp]

theorem nodup_keys_foldl_appendAt (f : β → Option (κ × ν)) (xs : List β) {m : List (κ × List ν)}
    (hm : (m.map Prod.fst).Nodup) :
    ((xs.foldl (fun m x => (f x).elim m fun p => appendAt m p.1 p.2) m).map Prod.fst).Nodup := by
  induction xs generalizing m with
  | nil => exact hm
  | cons x xs ih =>
    rw [List.foldl_cons]
    cases f x with
    | none => exact ih hm
    | some p => exact ih (nodup_keys_set hm _ _)

theorem mem_keys_foldl_appendAt (f : β → Option (κ × ν)) (xs : List β) (m : List (κ × List ν)) (k : κ) :
    k ∈ (xs.foldl (fun m x => (f x).elim m fun p => appendAt m p.1 p.2) m).map Prod.fst ↔
      k ∈ m.map Prod.fst ∨ ∃ p ∈ xs.filterMap f, p.1 = k := by
  induction xs generalizing m with
  | nil => simp
  | cons x xs ih =>
    rw [List.foldl_cons, ih]
    cases hx : f x with
    | none => simp [hx]
    | some p =>
      rw [Option.elim, appendAt, mem_keys_set, List.filterMap_cons_some hx]
      simp only [List.mem_cons]
      constructor
      · rintro ((rfl | hk) | ⟨p', hp', rfl⟩)
        · exact Or.inr ⟨p, Or.inl rfl, rfl⟩
        · exact Or.inl hk
        · exact Or.inr ⟨p', Or.inr hp', rfl⟩
      · rintro (hk | ⟨p', rfl | hp', rfl⟩)
        · exact Or.inl (Or.inr hk)
        · exact Or.inl (Or.inl rfl)
        · exact Or.inr ⟨p', hp', rfl⟩

theorem mem_keys_foldl_appendAt_nil (f : β → Option (κ × ν)) (xs : List β) (k : κ) :
    k ∈ (xs.foldl (fun m x => (f x).elim m fun p => appendAt m p.1 p.2) []).map Prod.fst ↔
      index (xs.foldl (fun m x => (f x).elim m fun p => appendAt m p.1 p.2) []) k [] ≠ [] := by
  rw [mem_keys_foldl_appendAt, index_foldl_appendAt]
  simp

theorem flatMap_snd_appendAt_perm (m : List (κ × List ν)) (k : κ) (v : ν) :
    ((appendAt m k v).flatMap Prod.snd).Perm (m.flatMap Prod.snd ++ [v]) := by
  induction m with
  | nil => simp [appendAt, set, index]
  | cons p m ih =>
    by_cases hp : p.1 = k
    · have hidx : index (p :: m) k [] = p.2 := by simp [index, lookup_cons_eq_ite, hp]
      rw [appendAt, hidx, set, if_pos hp, List.flatMap_cons, List.flatMap_cons, List.append_assoc,
        List.append_assoc]
      exact (List.perm_append_comm.append_left p.2)
    · have hidx : index (p :: m) k [] = index m k [] := by simp [index, lookup_cons_eq_ite, hp]
      rw [appendAt, hidx, set, if_neg hp, List.flatMap_cons, List.flatMap_cons, List.append_assoc]
      exact ih.append_left p.2

theorem flatMap_snd_foldl_appendAt_perm (f : β → Option (κ × ν)) (xs : List β) (m : List (κ × List ν)) :
    ((xs.foldl (fun m x => (f x).elim m fun p => appendAt m p.1 p.2) m).flatMap Prod.snd).Perm
      (m.flatMap Prod.snd ++ (xs.filterMap f).map Prod.snd) := by
  induction xs generalizing m with
  | nil => simp
  | cons x xs ih =>
    rw [List.foldl_cons]
    cases hx : f x with
    | none => simpa [hx] using ih m
    | some p =>
      refine (ih _).trans ?_
      rw [List.filterMap_cons_some hx, List.map_cons]
      refine ((flatMap_snd_appendAt_perm m p.1 p.2).append_right _).trans ?_
      rw [List.append_assoc, List.singleton_append]

end Multimap

section Range

variable {σ β W ε : Type}

omit [DecidableEq κ] in
theorem foldlM_keyed (I : σ → Prop) (view : σ → κ → W) (R : κ × β → W → W → Prop)
    (step : σ → κ × β → Except ε σ) :
    ∀ (es : List (κ × β)), (es.map Prod.fst).Nodup →
      (∀ e ∈ es, ∀ s, I s → ∃ s', step s e = .ok s' ∧ I s' ∧ R e (view s e.1) (view s' e.1) ∧
        ∀ k, k ≠ e.1 → view s' k = view s k) →
      ∀ s, I s → ∃ s', es.foldlM step s = .ok s' ∧ I s' ∧
        (∀ k, k ∉ es.map Prod.fst → view s' k = view s k) ∧
        ∀ e ∈ es, R e (view s e.1) (view s' e.1) := by
  intro es
  induction es with
  | nil =>
    intro _ _ s hs
    exact ⟨s, rfl, hs, fun _ _ => rfl, fun _ he => absurd he List.not_mem_nil⟩
  | cons e es ih =>
    intro hnd hstep s hs
    rw [List.map_cons] at hnd
    obtain ⟨he, hnd⟩ := List.nodup_cons.mp hnd
    obtain ⟨s₁, hs₁, hI₁, hR₁, hother₁⟩ := hstep e List.mem_cons_self s hs
    obtain ⟨s', hs', hI', hother, hR⟩ :=
      ih hnd (fun e' he' => hstep e' (List.mem_cons_of_mem e he')) s₁ hI₁
    refine ⟨s', by rw [List.foldlM_cons, hs₁]; exact hs', hI', fun k hk => ?_, fun e' he' => ?_⟩
    · have hk' : k ∉ es.map Prod.fst := fun h => hk (List.mem_cons_of_mem _ h)
      have hke : k ≠ e.1 := fun h => hk (h ▸ List.mem_cons_self)
      rw [hother k hk', hother₁ k hke]
    · rcases List.mem_cons.mp he' with rfl | he'
      · rw [hother e'.1 he]
        exact hR₁
      · have hne : e'.1 ≠ e.1 := fun h => he (h ▸ List.mem_map_of_mem he')
        rw [← hother₁ e'.1 hne]
        exact hR e' he'

end Range

end GoMap
