import Mathlib.Data.List.Basic

namespace GoSlice

inductive Panic where
  | typeAssertion (actual expected : String)
  | sliceBounds (index length : Int)
  | indexRange (index length : Int)
  deriving DecidableEq, Repr

variable {α : Type}

def sliceTo (s : List α) (hi : Int) : Except Panic (List α) :=
  if 0 ≤ hi ∧ hi ≤ s.length then .ok (s.take hi.toNat) else .error (.sliceBounds hi s.length)

def sliceFrom (s : List α) (lo : Int) : Except Panic (List α) :=
  if 0 ≤ lo ∧ lo ≤ s.length then .ok (s.drop lo.toNat) else .error (.sliceBounds lo s.length)

def index (s : List α) (i : Int) (d : α) : Except Panic α :=
  if 0 ≤ i ∧ i < s.length then .ok (s.getD i.toNat d) else .error (.indexRange i s.length)

@[simp] theorem index_cons_zero (a : α) (s : List α) (d : α) : index (a :: s) 0 d = .ok a := by
  simp [index]

theorem sliceTo_of_le (s : List α) {hi : Nat} (h : hi ≤ s.length) :
    sliceTo s hi = .ok (s.take hi) := by
  simp [sliceTo, h]

theorem sliceTo_of_lt (s : List α) {hi : Nat} (h : s.length < hi) :
    sliceTo s hi = .error (.sliceBounds hi s.length) := by
  simp only [sliceTo]
  rw [if_neg (by omega)]

theorem sliceFrom_of_le (s : List α) {lo : Nat} (h : lo ≤ s.length) :
    sliceFrom s lo = .ok (s.drop lo) := by
  simp [sliceFrom, h]

end GoSlice
