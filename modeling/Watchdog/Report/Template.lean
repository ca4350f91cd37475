import Mathlib
import Watchdog.Model.Rpc
import Watchdog.Foundations.GoStd

namespace Watchdog

def noBLSKeys : Bytes := GoStd.bytesOf "No BLS keys"

def shortBLSKeyStep (acc : Bytes × Int) (key : Bytes × Nat) : Bytes × Int :=
  let (displayStr, count) := acc
  let (k, i) := key
  if k.length = 96 then
    let displayStr := displayStr ++ k.take 3 ++ GoStd.bytesOf "..." ++ k.drop (k.length - 3)
    if (i : Int) ≠ count then (displayStr ++ GoStd.bytesOf ", ", count) else (displayStr, count)
  else (displayStr, count - 1)

def getShortBLSKey (keys : List Bytes) : Bytes :=
  let displayStr : Bytes := if keys.length = 0 then noBLSKeys else []
  (keys.zipIdx.foldl shortBLSKeyStep (displayStr, keys.length)).1

def abbrevKey (k : Bytes) : Bytes := k.take 3 ++ GoStd.bytesOf "..." ++ k.drop (k.length - 3)

def intendedShortBLSKey (keys : List Bytes) : Bytes :=
  if keys = [] then noBLSKeys
  else (GoStd.bytesOf ", ").intercalate ((keys.filter fun k => k.length = 96).map abbrevKey)

def invalidBefore (keys : List Bytes) (i : Nat) : Nat :=
  ((keys.take i).filter fun k => k.length ≠ 96).length

def shortBLSKeyPiece (n : Int) (keys : List Bytes) (key : Bytes × Nat) : Bytes :=
  if key.1.length = 96 then
    abbrevKey key.1 ++ if (key.2 : Int) = n - invalidBefore keys key.2 then [] else GoStd.bytesOf ", "
  else []

section Loop

theorem invalidBefore_append_of_le {keys : List Bytes} {i : Nat} (k : Bytes) (hi : i ≤ keys.length) :
    invalidBefore (keys ++ [k]) i = invalidBefore keys i := by
  rw [invalidBefore, List.take_append_of_le_length hi, invalidBefore]

theorem invalidBefore_length_append (keys : List Bytes) (k : Bytes) :
    invalidBefore (keys ++ [k]) (keys ++ [k]).length =
      invalidBefore keys keys.length + if k.length = 96 then 0 else 1 := by
  simp only [invalidBefore, List.take_length, List.filter_append]
  by_cases hk : k.length = 96 <;> simp [hk]

theorem shortBLSKeyStep_eq (displayStr : Bytes) (count : Int) (k : Bytes) (i : Nat) :
    shortBLSKeyStep (displayStr, count) (k, i) =
      if k.length = 96 then
        (displayStr ++ abbrevKey k ++ if (i : Int) = count then [] else GoStd.bytesOf ", ", count)
      else (displayStr, count - 1) := by
  by_cases hk : k.length = 96
  · by_cases hi : (i : Int) = count <;> simp [shortBLSKeyStep, hk, hi, abbrevKey]
  · simp [shortBLSKeyStep, hk]

theorem foldl_shortBLSKeyStep (n : Int) (displayStr : Bytes) (keys : List Bytes) :
    keys.zipIdx.foldl shortBLSKeyStep (displayStr, n) =
      (displayStr ++ (keys.zipIdx.map (shortBLSKeyPiece n keys)).flatten,
        n - invalidBefore keys keys.length) := by
  induction keys using List.reverseRecOn with
  | nil => simp [invalidBefore]
  | append_singleton keys k ih =>
    have hpieces : keys.zipIdx.map (shortBLSKeyPiece n (keys ++ [k])) =
        keys.zipIdx.map (shortBLSKeyPiece n keys) := by
      refine List.map_congr_left fun p hp => ?_
      have hlt : p.2 < keys.length + 0 := List.snd_lt_of_mem_zipIdx hp
      simp only [shortBLSKeyPiece, invalidBefore_append_of_le k (by omega : p.2 ≤ keys.length)]
    have hlast : invalidBefore (keys ++ [k]) keys.length = invalidBefore keys keys.length :=
      invalidBefore_append_of_le k le_rfl
    rw [List.zipIdx_append, List.foldl_append, ih, List.zipIdx_singleton, List.foldl_cons,
      List.foldl_nil, shortBLSKeyStep_eq, List.map_append, hpieces, invalidBefore_length_append]
    by_cases hk : k.length = 96
    · simp [hk, shortBLSKeyPiece, hlast]
    · simp only [hk, if_false, List.map_singleton, shortBLSKeyPiece, List.flatten_append,
        List.flatten_singleton, List.append_nil, Nat.zero_add]
      congr 1
      omega

theorem getShortBLSKey_eq (keys : List Bytes) :
    getShortBLSKey keys = (if keys = [] then noBLSKeys else []) ++
      (keys.zipIdx.map (shortBLSKeyPiece keys.length keys)).flatten := by
  simp only [getShortBLSKey, List.length_eq_zero_iff, foldl_shortBLSKeyStep]

theorem flatten_map_append_sep {α : Type} (sep : List α) :
    ∀ {l : List (List α)}, l ≠ [] → (l.map (· ++ sep)).flatten = sep.intercalate l ++ sep
  | [], h => absurd rfl h
  | [a], _ => by simp
  | a :: b :: l, _ => by
    rw [List.map_cons, List.flatten_cons, flatten_map_append_sep sep (List.cons_ne_nil b l),
      List.intercalate_cons_cons]
    simp

end Loop

theorem getShortBLSKey_trailing_separator (keys : List Bytes) (hne : keys ≠ [])
    (hvalid : ∀ k ∈ keys, k.length = 96) :
    getShortBLSKey keys = intendedShortBLSKey keys ++ GoStd.bytesOf ", " := by
  have hinv : ∀ i, invalidBefore keys i = 0 := by
    intro i
    simp only [invalidBefore, List.length_eq_zero_iff, List.filter_eq_nil_iff, decide_eq_true_eq,
      not_not]
    exact fun k hk => hvalid k (List.mem_of_mem_take hk)
  have hpiece : ∀ p ∈ keys.zipIdx,
      shortBLSKeyPiece keys.length keys p = abbrevKey p.1 ++ GoStd.bytesOf ", " := by
    intro p hp
    have hlt : p.2 < keys.length + 0 := List.snd_lt_of_mem_zipIdx hp
    have hne' : (p.2 : Int) ≠ keys.length - 0 := by omega
    simp only [shortBLSKeyPiece, hvalid p.1 (List.fst_mem_of_mem_zipIdx hp), if_true, hinv,
      Nat.cast_zero, if_neg hne']
  have hfilter : (keys.filter fun k => k.length = 96) = keys :=
    List.filter_eq_self.mpr fun k hk => decide_eq_true (hvalid k hk)
  have hmap : keys.zipIdx.map (fun p => abbrevKey p.1 ++ GoStd.bytesOf ", ") =
      (keys.map abbrevKey).map (· ++ GoStd.bytesOf ", ") := by
    rw [List.map_map, ← List.zipIdx_map_fst 0 keys, List.map_map, List.zipIdx_map_fst]
    rfl
  rw [getShortBLSKey_eq, if_neg hne, List.nil_append, List.map_congr_left hpiece, hmap,
    flatten_map_append_sep _ (by simpa using hne), intendedShortBLSKey, if_neg hne, hfilter]

theorem getShortBLSKey_trailing_separator_one_key :
    getShortBLSKey [List.replicate 96 97] = intendedShortBLSKey [List.replicate 96 97] ++ GoStd.bytesOf ", " :=
  getShortBLSKey_trailing_separator _ (List.cons_ne_nil _ _) (by simp)

end Watchdog
