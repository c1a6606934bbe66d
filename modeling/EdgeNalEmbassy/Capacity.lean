import Mathlib.Data.Finset.Card
import EdgeNalEmbassy.Lifecycle

/-! # Exhaustion

A pool of capacity `N` serves at most `N` live sockets, and a factory's `new` reports
`NoBuffers` exactly when `N` are live: the used slots are counted by the live wrappers, one
slot each (`Owned`), and no step changes a pool's capacity.
-/

namespace EdgeNalEmbassy

/-- The slot that a pointer into the pool addresses. -/
def Pool.index (p : Pool) (ptr : Nat) : Nat := (ptr - p.data) / p.size

theorem Pool.index_slot (p : Pool) (h : 0 < p.size) (n : Nat) : p.index (p.slot n) = n := by
  simp [Pool.index, Pool.slot, Nat.mul_div_cancel _ h]

namespace World

/-- The ids of the live wrappers on pool `i`. -/
def liveOn (w : World) (i : Nat) : Finset Nat :=
  (Finset.range w.next).filter fun id => (w.sockets id).map Socket.pool = some i

/-- The used slots of pool `i`. -/
def usedOn (w : World) (i : Nat) : Finset Nat :=
  (Finset.range (w.pools i).used.length).filter fun n => (w.pools i).used[n]? = some true

/-- The slot of each wrapper on pool `i`. -/
def slotOf (w : World) (i id : Nat) : Nat :=
  ((w.sockets id).map fun s => (w.pools i).index s.token).getD 0

theorem mem_liveOn {w : World} {i id : Nat} :
    id ∈ w.liveOn i ↔ id < w.next ∧ ∃ s, w.sockets id = some s ∧ s.pool = i := by
  simp [liveOn, Option.map_eq_some']

theorem mem_usedOn {w : World} {i n : Nat} :
    n ∈ w.usedOn i ↔ (w.pools i).used[n]? = some true := by
  simp only [usedOn, Finset.mem_filter, Finset.mem_range, and_iff_right_iff_imp]
  exact fun h => (List.getElem?_eq_some_iff.mp h).1

theorem setSlot_length (w : World) (j n i : Nat) (b : Bool) :
    (w.setSlot j n b i).used.length = (w.pools i).used.length := by
  by_cases h : i = j
  · subst h; simp
  · simp [h]

theorem setSlot_data (w : World) (j n i : Nat) (b : Bool) :
    (w.setSlot j n b i).data = (w.pools i).data := by
  by_cases h : i = j
  · subst h; simp
  · simp [h]

end World

namespace Owned

variable {w : World} (ho : Owned w)
include ho

theorem image_liveOn (i : Nat) : (w.liveOn i).image (w.slotOf i) = w.usedOn i := by
  ext n
  simp only [Finset.mem_image, World.mem_liveOn, World.mem_usedOn]
  constructor
  · rintro ⟨id, ⟨-, s, hs, rfl⟩, rfl⟩
    obtain ⟨m, hm, ht⟩ := ho.token_used id s hs
    simpa [World.slotOf, hs, ht, Pool.index_slot _ (ho.sized _)] using hm
  · intro hn
    obtain ⟨id, s, hs, rfl, ht⟩ := ho.used_token i n hn
    refine ⟨id, ⟨Nat.lt_of_not_le fun h => by simp [ho.fresh id h] at hs, s, hs, rfl⟩, ?_⟩
    simp [World.slotOf, hs, ht, Pool.index_slot _ (ho.sized _)]

theorem card_liveOn (i : Nat) : (w.liveOn i).card = (w.usedOn i).card := by
  rw [← ho.image_liveOn i, Finset.card_image_of_injOn]
  rintro a ha b hb e
  obtain ⟨-, s, hs, rfl⟩ := World.mem_liveOn.mp ha
  obtain ⟨-, s', hs', hp⟩ := World.mem_liveOn.mp hb
  obtain ⟨m, -, ht⟩ := ho.token_used a s hs
  obtain ⟨m', -, ht'⟩ := ho.token_used b s' hs'
  rw [hp] at ht'
  simp only [World.slotOf, hs, hs', Option.map_some', Option.getD_some, ht, ht', hp,
    Pool.index_slot _ (ho.sized _)] at e
  exact ho.unique a b s s' hs hs' hp.symm (by rw [ht, ht', e])

end Owned

theorem Opens.setsOne {w w' : World} {id : Nat} (h : Opens w w' id) :
    ∃ j n b, w'.pools = w.setSlot j n b := by
  obtain ⟨-, _, _, -, -, -, hp⟩ := h
  exact ⟨_, _, _, hp⟩

theorem Frees.setsOne {w w' : World} {id : Nat} (h : Frees w w' id) :
    ∃ j n b, w'.pools = w.setSlot j n b := by
  obtain ⟨-, _, _, -, -, -, hp⟩ := h
  exact ⟨_, _, _, hp⟩

theorem Footprint.pools_eq {w w' : World} {e : Event} {reply : Reply}
    (fp : Footprint w e reply w') : w'.pools = w.pools ∨ ∃ j n b, w'.pools = w.setSlot j n b := by
  cases fp with
  | suspends _ h => exact .inr h.setsOne
  | calls _ h =>
    rcases h with ⟨_, _, _, h⟩ | ⟨_, h⟩
    exacts [.inr h.setsOne, .inl h]
  | settles _ h =>
    rcases h with ⟨_, _, h, _⟩ | ⟨_, h⟩
    exacts [.inl h, .inr h.setsOne]
  | drops h => exact .inr h.setsOne
  | keeps _ h => exact .inl h

theorem Footprint.length {w w' : World} {e : Event} {reply : Reply} (fp : Footprint w e reply w')
    (i : Nat) : (w'.pools i).used.length = (w.pools i).used.length := by
  rcases fp.pools_eq with e | ⟨j, n, b, e⟩
  · rw [e]
  · rw [e, World.setSlot_length]

section Reached

variable {f : Features} {cap data size : Nat → Nat} {h : ∀ i, 0 < data i} {w : World}

theorem Reachable.length (hs : ∀ i, 0 < size i) (hw : Reachable f (World.init cap data size h) w)
    (i : Nat) : (w.pools i).used.length = cap i := by
  induction hw with
  | refl => simp [World.init, Pool.new]
  | step hw he ih => rw [((hw.owned hs).step_ok he).2.length i, ih]

theorem World.newSocket_none {w : World} {k : Kind} {i : Nat} {h : Holder} :
    w.newSocket k i h = none ↔ ∀ b ∈ (w.pools i).used, b = true := by
  rcases (w.pools i).alloc_cases with ⟨n, hn, ea⟩ | ⟨hall, ea⟩
  · simp only [World.newSocket, World.allocOn, ea, reduceCtorEq, false_iff]
    exact fun hall => by simpa using hall _ (List.getElem?_mem hn)
  · simpa [World.newSocket, World.allocOn, ea] using hall

theorem World.usedOn_card_eq {w : World} {i : Nat} :
    (w.usedOn i).card = (w.pools i).used.length ↔ ∀ b ∈ (w.pools i).used, b = true := by
  have e := @Finset.card_filter_eq_iff _ (Finset.range (w.pools i).used.length)
    (fun n => (w.pools i).used[n]? = some true) _
  rw [Finset.card_range] at e
  rw [World.usedOn, e]
  simp only [Finset.mem_range]
  constructor
  · intro hall b hb
    obtain ⟨n, hn⟩ := List.mem_iff_getElem?.mp hb
    simpa [hn] using hall n (List.getElem?_eq_some_iff.mp hn).1
  · intro hall n hn
    rw [List.getElem?_eq_getElem hn, hall _ (List.getElem_mem hn)]

/-- From fresh pools of non-zero element size, at every reachable world: at most `N` wrappers
are live on a pool of capacity `N`, and a factory finds the pool exhausted (`NoBuffers`)
exactly when `N` are. -/
theorem exhausted_iff_all_live (hs : ∀ i, 0 < size i)
    (hw : Reachable f (World.init cap data size h) w) (k : Kind) (i : Nat) (holder : Holder) :
    (w.liveOn i).card ≤ cap i ∧ (w.newSocket k i holder = none ↔ (w.liveOn i).card = cap i) := by
  have hc := (hw.owned hs).card_liveOn i
  have hl := hw.length hs i
  refine ⟨hc ▸ hl ▸ (Finset.card_filter_le _ _).trans (Finset.card_range _).le, ?_⟩
  rw [World.newSocket_none, hc, ← hl, World.usedOn_card_eq]

theorem bindThenConnect_exhausted :
    ∃ w, Reachable ⟨true, true⟩ twoSlotPools w ∧ (w.liveOn 0).card = 2 ∧
      w.newSocket .tcp 0 .connecting = none :=
  have hw := @Reachable.step ⟨true, true⟩ twoSlotPools _ _ (.connect 0 (.v4 2 80) .pending) _
    (@Reachable.step _ _ _ _ (.connect 0 (.v4 1 80) .pending) _
      (@Reachable.step _ _ _ _ (.udpBind 1 (.v4 0 0) (.ok ())) _ .refl rfl) rfl) rfl
  ⟨_, hw, by decide,
    ((exhausted_iff_all_live (fun _ => Nat.succ_pos 7) hw .tcp 0 .connecting).2).mpr (by decide)⟩

end Reached

end EdgeNalEmbassy
