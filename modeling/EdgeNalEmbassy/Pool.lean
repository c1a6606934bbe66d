import Mathlib.Data.List.Basic

/-! # The slot pool

`Pool<T, N>` of `lib.rs`: `N` used flags beside an array of `N` uninitialised slots of `T`.
`alloc` hands out the address of the first free slot; `free` turns an address back into a
slot number with `offset_from` against the array's base and clears that flag.

Addresses are naturals: slot `n` lives at `data + n * size_of::<T>()`, and no allocation
wraps the address space. Nothing here asks `T` to have a non-zero size; the lemmas that need
one say so, and the last section says what happens without it.
-/

namespace EdgeNalEmbassy

/-- How a call stops instead of returning. -/
inductive Fault where
  /-- A `panic!`: a failed `assert!` or `unwrap!`, or `offset_from` on a zero-sized type. -/
  | panic
  /-- Undefined behaviour: `offset_from` on a distance that is no multiple of the size. -/
  | undefined
  deriving DecidableEq, Repr

/-- `assert!(cond)`. -/
def assert (cond : Prop) [Decidable cond] : Except Fault Unit :=
  if cond then .ok () else .error .panic

/-- `<*mut T>::offset_from(self, origin)` for a `T` of `size` bytes: the distance in
elements. The standard library panics when `T` is zero-sized. -/
def offsetFrom (self origin size : Nat) : Except Fault Int :=
  if size = 0 then .error .panic
  else if ((self : Int) - origin) % size = 0 then .ok (((self : Int) - origin) / size)
  else .error .undefined

/-- A `Pool<T, N>`: the flags `used` (their number is the capacity `N`), the address `data`
of slot `0`, and `size_of::<T>()`. The array lives at a real, hence non-null, address. -/
structure Pool where
  used : List Bool
  data : Nat
  size : Nat
  data_pos : 0 < data

namespace Pool

/-- `Pool::new()`: `N` free slots. -/
def new (n data size : Nat) (h : 0 < data) : Pool := ⟨List.replicate n false, data, size, h⟩

/-- `self.data[n].get() as *mut T`: the address of slot `n`. -/
def slot (p : Pool) (n : Nat) : Nat := p.data + n * p.size

/-- The loop `for n in 0..N` of `Pool::alloc`, from slot `n` on, over the flags still to
look at: the first free slot is marked used and its address returned. -/
def scan (p : Pool) : Nat → List Bool → Option Nat × List Bool
  | _, [] => (none, [])
  | n, false :: rest => (some (p.slot n), true :: rest)
  | n, true :: rest => let r := p.scan (n + 1) rest; (r.1, true :: r.2)

/-- `Pool::alloc`. -/
def alloc (p : Pool) : Option Nat × Pool :=
  let r := p.scan 0 p.used
  (r.1, { p with used := r.2 })

/-- `Pool::free`. -/
def free (p : Pool) (ptr : Nat) : Except Fault Pool := do
  let n ← offsetFrom ptr p.data p.size
  assert (n ≥ 0)
  assert (n.toNat < p.used.length)
  pure { p with used := p.used.set n.toNat false }

@[simp] theorem slot_used (p : Pool) (us : List Bool) (n : Nat) :
    ({ p with used := us } : Pool).slot n = p.slot n := rfl

theorem slot_pos (p : Pool) (n : Nat) : 0 < p.slot n := by
  have := p.data_pos
  simp only [slot]
  omega

theorem slot_inj (p : Pool) (h : 0 < p.size) {n m : Nat} (e : p.slot n = p.slot m) : n = m :=
  Nat.eq_of_mul_eq_mul_right h (by simp only [slot] at e; omega)

/-! ## `alloc` -/

theorem scan_cases (p : Pool) : ∀ (us : List Bool) (n : Nat),
    (∃ k, us[k]? = some false ∧ (∀ m < k, us[m]? = some true) ∧
      p.scan n us = (some (p.slot (n + k)), us.set k true)) ∨
    ((∀ b ∈ us, b = true) ∧ p.scan n us = (none, us))
  | [], _ => .inr ⟨by simp, rfl⟩
  | false :: _, n => .inl ⟨0, by simp, by simp, by simp [scan]⟩
  | true :: rest, n => by
    rcases p.scan_cases rest (n + 1) with ⟨k, hk, hlt, e⟩ | ⟨hall, e⟩
    · refine .inl ⟨k + 1, by simpa using hk, fun m hm => ?_,
        by simp [scan, e, Nat.add_right_comm, Nat.add_assoc]⟩
      cases m with
      | zero => simp
      | succ m => simpa using hlt m (by omega)
    · exact .inr ⟨by simpa using hall, by simp [scan, e]⟩

theorem alloc_cases (p : Pool) :
    (∃ n, p.used[n]? = some false ∧
      p.alloc = (some (p.slot n), { p with used := p.used.set n true })) ∨
    ((∀ b ∈ p.used, b = true) ∧ p.alloc = (none, p)) := by
  rcases p.scan_cases p.used 0 with ⟨n, hn, -, e⟩ | ⟨hall, e⟩
  · exact .inl ⟨n, hn, by simp [alloc, e]⟩
  · exact .inr ⟨hall, by simp [alloc, e]⟩

private theorem least_free_unique {us : List Bool} {k n : Nat}
    (hk : us[k]? = some false) (hk' : ∀ m < k, us[m]? = some true)
    (hn : us[n]? = some false) (hn' : ∀ m < n, us[m]? = some true) : k = n := by
  rcases Nat.lt_trichotomy k n with h | h | h
  · simp [hn' k h] at hk
  · exact h
  · simp [hk' n h] at hn

/-- `Pool::alloc` is first fit: it takes the least free slot and changes no other flag, and
on a full pool it returns `None` and changes nothing. -/
theorem alloc_first_fit (p : Pool) :
    (∀ n, p.used[n]? = some false → (∀ m < n, p.used[m]? = some true) →
      p.alloc = (some (p.slot n), { p with used := p.used.set n true })) ∧
    ((∀ b ∈ p.used, b = true) → p.alloc = (none, p)) := by
  rcases p.scan_cases p.used 0 with ⟨k, hk, hk', e⟩ | ⟨hall, e⟩
  · refine ⟨fun n hn hn' => ?_, fun hall => ?_⟩
    · obtain rfl := least_free_unique hk hk' hn hn'
      simp [alloc, e]
    · simpa using hall _ (List.getElem?_mem hk)
  · refine ⟨fun n hn _ => ?_, fun _ => by simp [alloc, e]⟩
    simpa using hall _ (List.getElem?_mem hn)

/-! ## `free` -/

theorem offsetFrom_slot (data : Nat) {size : Nat} (n : Nat) (h : 0 < size) :
    offsetFrom (data + n * size) data size = .ok n := by
  have hs : (size : Int) ≠ 0 := by omega
  have e : (data : Int) + n * size - data = n * size := by rw [Int.add_comm, Int.add_sub_cancel]
  simp [offsetFrom, Nat.pos_iff_ne_zero.mp h, e, Int.mul_ediv_cancel _ hs]

theorem free_slot (p : Pool) {n : Nat} (h : 0 < p.size) (hn : n < p.used.length) :
    p.free (p.slot n) = .ok { p with used := p.used.set n false } := by
  simp [free, slot, offsetFrom_slot _ n h, assert, hn, bind, Except.bind, pure, Except.pure,
    Int.ofNat_nonneg]

theorem free_ok {p p' : Pool} {ptr : Nat} (e : p.free ptr = .ok p') :
    ∃ n : Nat, p' = { p with used := p.used.set n false } := by
  cases h : offsetFrom ptr p.data p.size with
  | error f => simp [free, h, bind, Except.bind] at e
  | ok n =>
    refine ⟨n.toNat, ?_⟩
    by_cases h0 : n ≥ 0 <;> by_cases h1 : n.toNat < p.used.length <;>
      simp [free, h, assert, h0, h1, bind, Except.bind, pure, Except.pure] at e
    exact e.symm

/-! ## Zero-sized `T` -/

theorem free_of_size_zero (p : Pool) (h : p.size = 0) (ptr : Nat) : p.free ptr = .error .panic := by
  simp [free, offsetFrom, h, bind, Except.bind]

end Pool

end EdgeNalEmbassy
