import Mathlib.Data.List.Basic

namespace GoSync

def addCounter (counter delta : Int) : Except String Int :=
  if counter + delta < 0 then .error "sync: negative WaitGroup counter" else .ok (counter + delta)

theorem addCounter_eq_ok {counter delta g : Int} :
    addCounter counter delta = .ok g ↔ 0 ≤ counter + delta ∧ g = counter + delta := by
  unfold addCounter
  by_cases h : counter + delta < 0
  · rw [if_pos h]
    constructor
    · intro he
      cases he
    · rintro ⟨hle, -⟩
      omega
  · rw [if_neg h]
    constructor
    · intro he
      cases he
      exact ⟨by omega, rfl⟩
    · rintro ⟨-, rfl⟩
      rfl

theorem addCounter_eq_error {counter delta : Int} {e : String} :
    addCounter counter delta = .error e ↔ counter + delta < 0 ∧ e = "sync: negative WaitGroup counter" := by
  unfold addCounter
  by_cases h : counter + delta < 0
  · rw [if_pos h]
    constructor
    · intro he
      cases he
      exact ⟨h, rfl⟩
    · rintro ⟨-, rfl⟩
      rfl
  · rw [if_neg h]
    constructor
    · intro he
      cases he
    · rintro ⟨h', -⟩
      exact absurd h' h

structure Chan (α : Type) where
  buffer : List α
  cap : Nat
  closed : Bool
  deriving DecidableEq, Repr

namespace Chan

variable {α : Type}

def make (cap : Nat) : Chan α := ⟨[], cap, false⟩

def send (c : Chan α) (x : α) : Option (Except String (Chan α)) :=
  if c.closed then some (.error "send on closed channel")
  else if c.buffer.length < c.cap then some (.ok { c with buffer := c.buffer ++ [x] })
  else none

def recv (c : Chan α) : Option (Option α × Chan α) :=
  match c.buffer with
  | x :: xs => some (some x, { c with buffer := xs })
  | [] => if c.closed then some (none, c) else none

def close (c : Chan α) : Except String (Chan α) :=
  if c.closed then .error "close of closed channel" else .ok { c with closed := true }

variable {c c' : Chan α} {x : α}

theorem send_eq_ok : c.send x = some (.ok c') ↔
    c.closed = false ∧ c.buffer.length < c.cap ∧ c' = { c with buffer := c.buffer ++ [x] } := by
  unfold send
  cases hc : c.closed with
  | true => simp
  | false =>
    by_cases hlen : c.buffer.length < c.cap
    · simp [hlen, eq_comm]
    · simp [hlen]

theorem send_eq_error {e : String} : c.send x = some (.error e) ↔
    c.closed = true ∧ e = "send on closed channel" := by
  unfold send
  cases hc : c.closed with
  | true => simp [eq_comm]
  | false =>
    by_cases hlen : c.buffer.length < c.cap
    · simp [hlen]
    · simp [hlen]

theorem recv_eq_some : c.recv = some (some x, c') ↔
    ∃ xs, c.buffer = x :: xs ∧ c' = { c with buffer := xs } := by
  unfold recv
  cases hb : c.buffer with
  | nil => cases c.closed <;> simp
  | cons y ys => simp [eq_comm]

theorem close_eq_ok : c.close = .ok c' ↔ c.closed = false ∧ c' = { c with closed := true } := by
  unfold close
  cases c.closed <;> simp [eq_comm]

end Chan

end GoSync
