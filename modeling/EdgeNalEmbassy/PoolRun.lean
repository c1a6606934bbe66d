import EdgeNalEmbassy.Pool

/-! # Runs of one pool

A client of one `Pool<T, N>` calls `alloc` and `free` in any order and keeps the pointers it
was given. Its side of the contract of `free` is to free only a pointer it holds, and to hold
it no more afterwards. The socket buffers cast the pointer to `NonNull<u8>` and back before
freeing it; a cast keeps the address, so it is the identity here.

For a `T` of non-zero size the held pointers and the used slots stay in one-to-one
correspondence along every run. For a zero-sized `T` they do not: two allocations give the
same pointer, and the first `free` panics.
-/

namespace EdgeNalEmbassy

/-- A call of the client. -/
inductive Op where
  | alloc
  | free (ptr : Nat)

/-- A pool and the pointers its client holds. -/
structure Client where
  pool : Pool
  held : List Nat

namespace Client

/-- The client makes one call; what `alloc` returns is held from then on. -/
def step (c : Client) : Op → Except Fault Client
  | .alloc =>
    let r := c.pool.alloc
    .ok ⟨r.2, match r.1 with | some ptr => ptr :: c.held | none => c.held⟩
  | .free ptr => (c.pool.free ptr).map fun p => ⟨p, c.held.erase ptr⟩

/-- The client's side of the contract of `free`. -/
def Allowed (c : Client) : Op → Prop
  | .alloc => True
  | .free ptr => ptr ∈ c.held

/-- The states of a client that started on `Pool::new()` and kept the contract. -/
inductive Reachable : Client → Prop
  | new (n data size : Nat) (h : 0 < data) : Reachable ⟨Pool.new n data size h, []⟩
  | step {c c' : Client} {op : Op} :
      Reachable c → c.Allowed op → c.step op = .ok c' → Reachable c'

/-- The pointers held are the addresses of the used slots, each held once. -/
structure Tracks (c : Client) : Prop where
  nodup : c.held.Nodup
  held_used : ∀ ptr ∈ c.held, ∃ n, c.pool.used[n]? = some true ∧ ptr = c.pool.slot n
  used_held : ∀ n, c.pool.used[n]? = some true → c.pool.slot n ∈ c.held
  count : c.held.length = c.pool.used.count true

end Client

theorem count_set_of_getElem? {us : List Bool} {n : Nat} {a b : Bool} (h : us[n]? = some a) :
    (us.set n b).count true + (if a then 1 else 0) = us.count true + (if b then 1 else 0) := by
  obtain ⟨hn, rfl⟩ := List.getElem?_eq_some_iff.mp h
  have hc := List.count_set b true us n hn
  have hpos : us[n] = true → 0 < us.count true :=
    fun ht => List.count_pos_iff.mpr (ht ▸ List.getElem_mem hn)
  cases hu : us[n] <;> cases b <;> simp_all

namespace Client

variable {c c' : Client} {op : Op}

theorem step_size (e : c.step op = .ok c') : c'.pool.size = c.pool.size := by
  cases op with
  | alloc => simp only [step, Except.ok.injEq] at e; subst e; rfl
  | free ptr =>
    cases h : c.pool.free ptr with
    | error f => simp [step, h, Except.map] at e
    | ok p =>
      simp only [step, h, Except.map, Except.ok.injEq] at e
      obtain ⟨n, rfl⟩ := Pool.free_ok h
      subst e
      rfl

namespace Tracks

variable (hs : 0 < c.pool.size) (ht : Tracks c)
include hs ht

theorem alloc {n : Nat} (hn : c.pool.used[n]? = some false) :
    Tracks ⟨{ c.pool with used := c.pool.used.set n true }, c.pool.slot n :: c.held⟩ where
  nodup := by
    refine List.nodup_cons.mpr ⟨fun hm => ?_, ht.nodup⟩
    obtain ⟨m, hm, e⟩ := ht.held_used _ hm
    obtain rfl := c.pool.slot_inj hs e
    simp [hn] at hm
  held_used := by
    have hlt : n < c.pool.used.length := (List.getElem?_eq_some_iff.mp hn).1
    intro ptr hp
    rcases List.mem_cons.mp hp with rfl | hp
    · exact ⟨n, by simp [hlt], rfl⟩
    · obtain ⟨m, hm, rfl⟩ := ht.held_used ptr hp
      have hmn : n ≠ m := by rintro rfl; simp [hn] at hm
      exact ⟨m, by simpa [List.getElem?_set_ne hmn] using hm, rfl⟩
  used_held := by
    intro m hm
    by_cases hmn : n = m
    · subst hmn; simp
    · simp only [List.getElem?_set_ne hmn] at hm
      exact List.mem_cons_of_mem _ (ht.used_held m hm)
  count := by
    have := count_set_of_getElem? (b := true) hn
    simp only [List.length_cons, ht.count]
    simp at this ⊢
    omega

theorem free {ptr : Nat} (hp : ptr ∈ c.held) :
    ∃ n, ptr = c.pool.slot n ∧ c.pool.used[n]? = some true ∧
      c.step (.free ptr) =
        .ok ⟨{ c.pool with used := c.pool.used.set n false }, c.held.erase ptr⟩ ∧
      Tracks ⟨{ c.pool with used := c.pool.used.set n false }, c.held.erase ptr⟩ := by
  obtain ⟨n, hn, rfl⟩ := ht.held_used _ hp
  have hlt : n < c.pool.used.length := (List.getElem?_eq_some_iff.mp hn).1
  refine ⟨n, rfl, hn, by simp [step, c.pool.free_slot hs hlt, Except.map], ?_⟩
  refine ⟨ht.nodup.erase _, fun ptr hp' => ?_, fun m hm => ?_, ?_⟩
  · obtain ⟨hne, hp'⟩ := (ht.nodup.mem_erase_iff).mp hp'
    obtain ⟨m, hm, rfl⟩ := ht.held_used _ hp'
    have hmn : n ≠ m := by rintro rfl; exact hne rfl
    exact ⟨m, by simpa [List.getElem?_set_ne hmn] using hm, rfl⟩
  · have hmn : n ≠ m := by rintro rfl; simp [hlt] at hm
    simp only [List.getElem?_set_ne hmn] at hm
    exact (ht.nodup.mem_erase_iff).mpr
      ⟨fun e => hmn (c.pool.slot_inj hs e).symm, ht.used_held m hm⟩
  · have := count_set_of_getElem? (b := false) hn
    simp only [List.length_erase_of_mem hp, ht.count]
    simp at this ⊢
    omega

end Tracks

theorem tracks_new (n data size : Nat) (h : 0 < data) :
    Tracks ⟨Pool.new n data size h, []⟩ where
  nodup := List.nodup_nil
  held_used := by simp
  used_held := by simp [Pool.new, List.getElem?_replicate]
  count := by simp [Pool.new, List.count_replicate]

theorem Reachable.tracks (hc : Reachable c) (hs : 0 < c.pool.size) : Tracks c := by
  induction hc with
  | new n data size h => exact tracks_new n data size h
  | @step c c' op _ ha e ih =>
    have hs' : 0 < c.pool.size := step_size e ▸ hs
    have ht := ih hs'
    cases op with
    | alloc =>
      rcases c.pool.alloc_cases with ⟨n, hn, ea⟩ | ⟨-, ea⟩ <;>
        simp only [Client.step, ea, Except.ok.injEq] at e <;> subst e
      · exact ht.alloc hs' hn
      · exact ht
    | free ptr =>
      obtain ⟨n, -, -, e', ht'⟩ := ht.free hs' ha
      rw [e'] at e
      cases e
      exact ht'

/-- Along every run that keeps the contract, on a `T` of non-zero size: the held pointers are
pairwise distinct and are the addresses of exactly the used slots; `free` of any of them
recovers its slot with `offset_from`, passes both assertions and clears only that flag; and
`alloc` returns `None` exactly when `N` pointers are held. -/
theorem held_are_used_slots (hc : Reachable c) (hs : 0 < c.pool.size) :
    Tracks c ∧
    (∀ ptr ∈ c.held, ∃ n, ptr = c.pool.slot n ∧ offsetFrom ptr c.pool.data c.pool.size = .ok n ∧
      c.pool.free ptr = .ok { c.pool with used := c.pool.used.set n false }) ∧
    (c.pool.alloc.1 = none ↔ c.held.length = c.pool.used.length) := by
  have ht := hc.tracks hs
  refine ⟨ht, fun ptr hp => ?_, ?_⟩
  · obtain ⟨n, hn, rfl⟩ := ht.held_used ptr hp
    exact ⟨n, rfl, Pool.offsetFrom_slot _ n hs,
      c.pool.free_slot hs (List.getElem?_eq_some_iff.mp hn).1⟩
  · rw [ht.count, List.count_eq_length]
    rcases c.pool.alloc_cases with ⟨n, hn, ea⟩ | ⟨hall, ea⟩
    · simpa [ea] using List.getElem?_mem hn
    · simpa [ea] using fun b hb => (hall b hb).symm

/-- One allocation from a two-slot pool of 8-byte slots at address 16. -/
def oneAlloc : Client := ⟨⟨[true, false], 16, 8, by decide⟩, [16]⟩

theorem oneAlloc_reachable : Reachable oneAlloc :=
  @Reachable.step _ _ .alloc (.new 2 16 8 (by decide)) trivial rfl

theorem oneAlloc_tracked : Reachable oneAlloc ∧ 0 < oneAlloc.pool.size ∧ Tracks oneAlloc :=
  ⟨oneAlloc_reachable, by decide, (held_are_used_slots oneAlloc_reachable (by decide)).1⟩

/-- With a zero-sized `T`, as in `TcpBuffers<2, 0, 0>`, a run that keeps the contract holds
the same pointer twice, and freeing it panics in `offset_from`. -/
theorem zero_sized_pool_aliases :
    Reachable ⟨⟨[true, true], 1, 0, Nat.one_pos⟩, [1, 1]⟩ ∧
      (⟨⟨[true, true], 1, 0, Nat.one_pos⟩, [1, 1]⟩ : Client).step (.free 1) = .error .panic :=
  ⟨@Reachable.step _ _ .alloc (@Reachable.step _ _ .alloc (.new 2 1 0 Nat.one_pos) trivial rfl)
    trivial rfl, by rw [step, Pool.free_of_size_zero _ rfl]; rfl⟩

end Client

end EdgeNalEmbassy

