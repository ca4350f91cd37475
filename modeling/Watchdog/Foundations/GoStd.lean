import Mathlib.Data.List.Basic
import Mathlib.Data.List.Forall2

namespace GoStd

def base (p : String) : String :=
  if p.isEmpty then "."
  else
    let stripped := p.toList.reverse.dropWhile (· = '/')
    let last := (stripped.takeWhile (· ≠ '/')).reverse
    if last.isEmpty then "/" else String.ofList last

def ext (p : String) : String :=
  let element := p.toList.reverse.takeWhile (· ≠ '/')
  match element.findIdx? (· = '.') with
  | some i => String.ofList (element.take (i + 1)).reverse
  | none => ""

def trimSuffix (s suffix : String) : String :=
  if suffix.toList.isSuffixOf s.toList then String.ofList (s.toList.take (s.length - suffix.length))
  else s

def lastByte (s : String) : UInt8 := s.toUTF8.toList.getLast?.getD 0

def atoiChar (c : Char) : Except String Int64 :=
  if c.isDigit then .ok (Int64.ofNat (c.toNat - '0'.toNat))
  else .error ("strconv.Atoi: parsing \"" ++ c.toString ++ "\": invalid syntax")

def itoa (n : Int64) : String := toString n.toInt

def stringOfBytes (bs : List UInt8) : String := String.ofList (bs.map fun b => Char.ofNat b.toNat)

def bytesOf (s : String) : List UInt8 := s.toList.map fun c => c.toNat.toUInt8

@[simp] theorem ok_bind {ε α β : Type} (a : α) (f : α → Except ε β) : (Except.ok a >>= f) = f a := rfl

@[simp] theorem error_bind {ε α β : Type} (e : ε) (f : α → Except ε β) :
    (Except.error e >>= f) = .error e := rfl

theorem bind_eq_ok {ε α β : Type} {x : Except ε α} {f : α → Except ε β} {b : β} :
    x >>= f = .ok b ↔ ∃ a, x = .ok a ∧ f a = .ok b := by
  cases x with
  | error e =>
    constructor
    · intro h
      cases h
    · rintro ⟨a, h, -⟩
      cases h
  | ok a =>
    constructor
    · intro h
      exact ⟨a, rfl, h⟩
    · rintro ⟨a', h, hf⟩
      cases h
      exact hf

theorem bind_eq_error {ε α β : Type} {x : Except ε α} {f : α → Except ε β} {e : ε} :
    x >>= f = .error e ↔ x = .error e ∨ ∃ a, x = .ok a ∧ f a = .error e := by
  cases x with
  | error e' =>
    constructor
    · intro h
      cases h
      exact .inl rfl
    · rintro (h | ⟨a, h, -⟩) <;> cases h
      rfl
  | ok a =>
    constructor
    · intro h
      exact .inr ⟨a, rfl, h⟩
    · rintro (h | ⟨a', h, hf⟩) <;> cases h
      exact hf

theorem foldlM_eq_ok_of_forall {ε α β : Type} {f : β → α → Except ε β} (P : β → Prop)
    {xs : List α} (hstep : ∀ b, P b → ∀ a ∈ xs, ∃ b', f b a = .ok b' ∧ P b') :
    ∀ {b : β}, P b → ∃ b', xs.foldlM f b = .ok b' ∧ P b' := by
  induction xs with
  | nil =>
    intro b hb
    exact ⟨b, rfl, hb⟩
  | cons a as ih =>
    intro b hb
    obtain ⟨b₁, hb₁, hP⟩ := hstep b hb a List.mem_cons_self
    rw [List.foldlM_cons, hb₁]
    exact ih (fun b hb a ha => hstep b hb a (List.mem_cons_of_mem _ ha)) hP

theorem foldlM_eq_ok_foldl {ε α β : Type} {f : β → α → Except ε β} {g : β → α → β} {xs : List α}
    (h : ∀ b, ∀ a ∈ xs, f b a = .ok (g b a)) (b : β) : xs.foldlM f b = .ok (xs.foldl g b) := by
  induction xs generalizing b with
  | nil => rfl
  | cons a as ih =>
    rw [List.foldlM_cons, h b a List.mem_cons_self, ok_bind, List.foldl_cons]
    exact ih (fun b a ha => h b a (List.mem_cons_of_mem _ ha)) _

theorem mapM_eq_ok_of_forall {ε α β : Type} {f : α → Except ε β} (P : α → β → Prop) :
    ∀ {xs : List α}, (∀ x ∈ xs, ∃ y, f x = .ok y ∧ P x y) →
      ∃ ys, xs.mapM f = .ok ys ∧ List.Forall₂ P xs ys
  | [], _ => ⟨[], rfl, .nil⟩
  | x :: xs, h => by
    obtain ⟨y, hy, hP⟩ := h x List.mem_cons_self
    obtain ⟨ys, hys, hP'⟩ := mapM_eq_ok_of_forall P fun x' hx' => h x' (List.mem_cons_of_mem x hx')
    refine ⟨y :: ys, ?_, .cons hP hP'⟩
    rw [List.mapM_cons, hy, ok_bind, hys, ok_bind]
    rfl

theorem mapM_map_eq_ok_of_forall {ε α β γ : Type} {f : α → β} {g : β → Except ε γ} (xs : List α)
    (h : ∀ x ∈ xs, ∃ y, g (f x) = .ok y) :
    ∃ ys, (xs.map f).mapM g = .ok ys ∧ List.Forall₂ (fun x y => g (f x) = .ok y) xs ys := by
  have hmap : ∀ b ∈ xs.map f, ∃ y, g b = .ok y ∧ g b = .ok y := by
    intro b hb
    obtain ⟨x, hx, rfl⟩ := List.mem_map.mp hb
    obtain ⟨y, hy⟩ := h x hx
    exact ⟨y, hy, hy⟩
  obtain ⟨ys, hys, hall⟩ := mapM_eq_ok_of_forall _ hmap
  exact ⟨ys, hys, List.forall₂_map_left_iff.mp hall⟩

section Forall₂

variable {α β γ : Type} {P : α → β → Prop}

theorem exists_of_forall₂ : ∀ {xs : List α} {ys : List β}, List.Forall₂ P xs ys → ∀ y ∈ ys, ∃ x ∈ xs, P x y
  | _, _, .nil, _, hy => absurd hy List.not_mem_nil
  | x :: _, _ :: _, .cons hxy h, y, hy => by
    rcases List.mem_cons.mp hy with rfl | hy
    · exact ⟨x, List.mem_cons_self, hxy⟩
    · obtain ⟨x', hx', hP⟩ := exists_of_forall₂ h y hy
      exact ⟨x', List.mem_cons_of_mem x hx', hP⟩

theorem map_eq_of_forall₂ {f : α → γ} {g : β → γ} :
    ∀ {xs : List α} {ys : List β}, List.Forall₂ (fun x y => g y = f x) xs ys → ys.map g = xs.map f
  | _, _, .nil => rfl
  | _, _, .cons hxy h => by rw [List.map_cons, List.map_cons, hxy, map_eq_of_forall₂ h]

end Forall₂

structure FileSystem where
  readFile : String → Except String (List UInt8)
  statNotExist : String → Bool
  openFile : String → Option String
  scan : String → List String × Option String

end GoStd
