import EdgeNalEmbassy.Socket

/-! # Each slot has one owner

The invariant of the socket world: the used slots of each pool are exactly the tokens of the
live wrappers on it, and no two wrappers share a token. It needs every element type to have
non-zero size, so that distinct slots have distinct addresses. `Opens` and `Frees` say what a
wrapper's creation and its drop do to the flags: one flag changes, that of its slot.
-/

namespace EdgeNalEmbassy

namespace World

/-- Pool `i` with slot `n` set to `b`. -/
def setSlot (w : World) (i n : Nat) (b : Bool) : Nat → Pool :=
  Function.update w.pools i { w.pools i with used := (w.pools i).used.set n b }

@[simp] theorem setSlot_same (w : World) (i n : Nat) (b : Bool) :
    w.setSlot i n b i = { w.pools i with used := (w.pools i).used.set n b } := by
  simp [setSlot]

@[simp] theorem setSlot_ne (w : World) {i j : Nat} (n : Nat) (b : Bool) (h : j ≠ i) :
    w.setSlot i n b j = w.pools j := by
  simp [setSlot, h]

theorem setSlot_size (w : World) (i n j : Nat) (b : Bool) :
    (w.setSlot i n b j).size = (w.pools j).size := by
  by_cases h : j = i
  · subst h; simp
  · simp [h]

theorem setSlot_slot (w : World) (i n j m : Nat) (b : Bool) :
    (w.setSlot i n b j).slot m = (w.pools j).slot m := by
  by_cases h : j = i
  · subst h; simp
  · simp [h]

theorem setSlot_used_ne (w : World) {i n j m : Nat} (b : Bool) (h : j ≠ i ∨ m ≠ n) :
    (w.setSlot i n b j).used[m]? = (w.pools j).used[m]? := by
  by_cases hj : j = i
  · subst hj; simp [List.getElem?_set_ne (h.resolve_left (not_not.mpr rfl)).symm]
  · simp [hj]

theorem setSlot_used_self (w : World) {i n : Nat} (b : Bool) (h : n < (w.pools i).used.length) :
    (w.setSlot i n b i).used[n]? = some b := by
  simp [h]

variable {w w' : World}

theorem newSocket_some {k : Kind} {i : Nat} {h : Holder} {id : Nat}
    (e : w.newSocket k i h = some (id, w')) :
    ∃ n, (w.pools i).used[n]? = some false ∧ id = w.next ∧
      w' = ⟨w.setSlot i n true, Function.update w.sockets w.next
        (some ⟨k, i, (w.pools i).slot n, h⟩), w.next + 1, w.calls ++ [(i, .alloc)]⟩ := by
  rcases (w.pools i).alloc_cases with ⟨n, hn, ea⟩ | ⟨-, ea⟩ <;>
    simp [newSocket, allocOn, ea] at e
  obtain ⟨rfl, rfl⟩ := e
  exact ⟨n, hn, rfl, rfl⟩

end World

/-- The pools and the live wrappers agree: each pool's used slots are exactly the tokens of
the live wrappers on it, and no two wrappers share one. -/
structure Owned (w : World) : Prop where
  sized : ∀ i, 0 < (w.pools i).size
  fresh : ∀ id, w.next ≤ id → w.sockets id = none
  token_used : ∀ id s, w.sockets id = some s →
    ∃ n, (w.pools s.pool).used[n]? = some true ∧ s.token = (w.pools s.pool).slot n
  used_token : ∀ i n, (w.pools i).used[n]? = some true →
    ∃ id s, w.sockets id = some s ∧ s.pool = i ∧ s.token = (w.pools i).slot n
  unique : ∀ id id' s s', w.sockets id = some s → w.sockets id' = some s' →
    s.pool = s'.pool → s.token = s'.token → id = id'

theorem Owned.init {cap data size : Nat → Nat} (h : ∀ i, 0 < data i) (hs : ∀ i, 0 < size i) :
    Owned (World.init cap data size h) where
  sized := hs
  fresh _ _ := rfl
  token_used _ _ hs := nomatch hs
  used_token i n hn := by simp [World.init, Pool.new, List.getElem?_replicate] at hn
  unique _ _ _ _ hs := nomatch hs

namespace Owned

variable {w : World} (ho : Owned w)
include ho

theorem slot_eq {i n m : Nat} (e : (w.pools i).slot n = (w.pools i).slot m) : n = m :=
  (w.pools i).slot_inj (ho.sized i) e

theorem newSocket {k : Kind} {i n : Nat} {h : Holder} {c : List (Nat × Op)}
    (hn : (w.pools i).used[n]? = some false) :
    Owned ⟨w.setSlot i n true, Function.update w.sockets w.next
      (some ⟨k, i, (w.pools i).slot n, h⟩), w.next + 1, c⟩ where
  sized j := by simpa [World.setSlot_size] using ho.sized j
  fresh id hid := by
    dsimp only at hid ⊢
    rw [Function.update_noteq (by omega)]
    exact ho.fresh id (by omega)
  token_used id s hs := by
    have hlt : n < (w.pools i).used.length := (List.getElem?_eq_some_iff.mp hn).1
    by_cases hid : id = w.next
    · subst hid
      simp only [Function.update_same, Option.some.injEq] at hs
      subst hs
      exact ⟨n, World.setSlot_used_self w true hlt, (World.setSlot_slot ..).symm⟩
    · simp only [Function.update_noteq hid] at hs
      obtain ⟨m, hm, ht⟩ := ho.token_used id s hs
      have hne : s.pool ≠ i ∨ m ≠ n := by
        by_cases hp : s.pool = i
        · subst hp; exact .inr fun hmn => by simp [hmn, hn] at hm
        · exact .inl hp
      exact ⟨m, by rw [World.setSlot_used_ne w true hne]; exact hm,
        by rw [World.setSlot_slot]; exact ht⟩
  used_token j m hm := by
    by_cases hjm : j = i ∧ m = n
    · obtain ⟨rfl, rfl⟩ := hjm
      exact ⟨w.next, _, Function.update_same .., rfl, (World.setSlot_slot ..).symm⟩
    · rw [World.setSlot_used_ne w true (not_and_or.mp hjm)] at hm
      obtain ⟨id, s, hs, hp, ht⟩ := ho.used_token j m hm
      have hid : id ≠ w.next := fun e => by simp [e, ho.fresh w.next le_rfl] at hs
      exact ⟨id, s, by dsimp only; rw [Function.update_noteq hid]; exact hs, hp,
        by rw [World.setSlot_slot]; exact ht⟩
  unique id id' s s' hs hs' hp ht := by
    have key : ∀ {id s}, id ≠ w.next → w.sockets id = some s → s.pool = i →
        s.token ≠ (w.pools i).slot n := by
      intro id s _ hs hp ht
      obtain ⟨m, hm, ht'⟩ := ho.token_used id s hs
      subst hp
      obtain rfl := ho.slot_eq (ht.symm.trans ht')
      simp [hm] at hn
    dsimp only at hs hs'
    by_cases hid : id = w.next <;> by_cases hid' : id' = w.next
    · rw [hid, hid']
    · subst hid
      simp only [Function.update_same, Option.some.injEq, Function.update_noteq hid'] at hs hs'
      subst hs
      exact absurd ht.symm (key hid' hs' hp.symm)
    · subst hid'
      simp only [Function.update_same, Option.some.injEq, Function.update_noteq hid] at hs hs'
      subst hs'
      exact absurd ht (key hid hs hp)
    · simp only [Function.update_noteq hid, Function.update_noteq hid'] at hs hs'
      exact ho.unique id id' s s' hs hs' hp ht

theorem of_slots {w' : World} (hp : w'.pools = w.pools) (hn : w.next ≤ w'.next)
    (hs : ∀ id, (w'.sockets id).map (fun s => (s.pool, s.token)) =
      (w.sockets id).map (fun s => (s.pool, s.token))) : Owned w' := by
  have back : ∀ {id s'}, w'.sockets id = some s' →
      ∃ s, w.sockets id = some s ∧ s.pool = s'.pool ∧ s.token = s'.token := fun h' => by
    obtain ⟨s, hs, e⟩ := Option.map_eq_some'.mp ((hs _).symm.trans (by rw [h']; rfl))
    exact ⟨s, hs, Prod.mk.inj e⟩
  have forth : ∀ {id s}, w.sockets id = some s →
      ∃ s', w'.sockets id = some s' ∧ s'.pool = s.pool ∧ s'.token = s.token := fun h => by
    obtain ⟨s', hs', e⟩ := Option.map_eq_some'.mp ((hs _).trans (by rw [h]; rfl))
    exact ⟨s', hs', Prod.mk.inj e⟩
  refine ⟨fun i => hp ▸ ho.sized i, fun id hid => ?_, fun id s' h' => ?_, fun i n hu => ?_,
    fun a b sa sb ha hb hpool htok => ?_⟩
  · cases h' : w'.sockets id with
    | none => rfl
    | some s' => obtain ⟨s, hs, -⟩ := back h'; simp [ho.fresh id (Nat.le_trans hn hid)] at hs
  · obtain ⟨s, hs, e1, e2⟩ := back h'
    rw [hp, ← e1, ← e2]
    exact ho.token_used id s hs
  · rw [hp] at hu ⊢
    obtain ⟨id, s, hs, rfl, ht⟩ := ho.used_token _ n hu
    obtain ⟨s', hs', e1, e2⟩ := forth hs
    exact ⟨id, s', hs', e1, e2.trans ht⟩
  · obtain ⟨ta, hta, a1, a2⟩ := back ha
    obtain ⟨tb, htb, b1, b2⟩ := back hb
    exact ho.unique a b ta tb hta htb (by rw [a1, b1, hpool]) (by rw [a2, b2, htok])

theorem hold {id : Nat} {s : Socket} (hs : w.sockets id = some s) (h : Holder) :
    (w.hold id h).pools = w.pools ∧ Owned (w.hold id h) := by
  simp only [World.hold, hs]
  refine ⟨trivial, ho.of_slots rfl le_rfl fun id' => ?_⟩
  by_cases e : id' = id
  · subst e; simp [hs]
  · simp [Function.update_noteq e]

theorem dropSocket {id : Nat} {s : Socket} (hs : w.sockets id = some s) :
    ∃ n, (w.pools s.pool).used[n]? = some true ∧ s.token = (w.pools s.pool).slot n ∧
      w.dropSocket id = .ok ⟨w.setSlot s.pool n false, Function.update w.sockets id none, w.next,
        w.calls ++ [(s.pool, .free s.token)]⟩ ∧
      Owned ⟨w.setSlot s.pool n false, Function.update w.sockets id none, w.next,
        w.calls ++ [(s.pool, .free s.token)]⟩ := by
  obtain ⟨n, hn, ht⟩ := ho.token_used id s hs
  have hlt : n < (w.pools s.pool).used.length := (List.getElem?_eq_some_iff.mp hn).1
  have other : ∀ {id' s'}, w.sockets id' = some s' → id' ≠ id →
      ∀ m, s'.token = (w.pools s'.pool).slot m → s'.pool ≠ s.pool ∨ m ≠ n := by
    intro id' s' hs' hid m ht'
    by_cases hp : s'.pool = s.pool
    · refine .inr fun hm => hid (ho.unique id' id s' s hs' hs hp ?_)
      rw [ht', ht, hm, hp]
    · exact .inl hp
  refine ⟨n, hn, ht, by simp [World.dropSocket, World.freeOn, hs, ht,
    Pool.free_slot _ (ho.sized _) hlt, Except.map, bind, Except.bind, pure, Except.pure,
    World.setSlot], ?_⟩
  refine ⟨fun j => by simpa [World.setSlot_size] using ho.sized j, fun id' hid' => ?_,
    fun id' s' hs' => ?_, fun j m hm => ?_, fun a b sa sb ha hb hp ht => ?_⟩
  · by_cases e : id' = id
    · subst e; simp
    · simp only [Function.update_noteq e]; exact ho.fresh id' hid'
  · have hid : id' ≠ id := by rintro rfl; simp at hs'
    simp only [Function.update_noteq hid] at hs'
    obtain ⟨m, hm, ht'⟩ := ho.token_used id' s' hs'
    exact ⟨m, by rw [World.setSlot_used_ne w false (other hs' hid m ht')]; exact hm,
      by rw [World.setSlot_slot]; exact ht'⟩
  · by_cases hjm : j = s.pool ∧ m = n
    · obtain ⟨rfl, rfl⟩ := hjm
      simp [hlt] at hm
    rw [World.setSlot_used_ne w false (not_and_or.mp hjm)] at hm
    obtain ⟨id', s', hs', rfl, ht'⟩ := ho.used_token j m hm
    have hid : id' ≠ id := by
      rintro rfl
      obtain rfl := Option.some.inj (hs'.symm.trans hs)
      exact hjm ⟨rfl, ho.slot_eq (ht'.symm.trans ht)⟩
    exact ⟨id', s', by dsimp only; rw [Function.update_noteq hid]; exact hs', rfl,
      by rw [World.setSlot_slot]; exact ht'⟩
  · have ha' : a ≠ id := by rintro rfl; simp at ha
    have hb' : b ≠ id := by rintro rfl; simp at hb
    simp only [Function.update_noteq ha', Function.update_noteq hb'] at ha hb
    exact ho.unique a b sa sb ha hb hp ht

end Owned

theorem set_set_of_getElem? {us : List Bool} {n : Nat} {b : Bool} (h : us[n]? = some b) (c : Bool) :
    (us.set n c).set n b = us := by
  apply List.ext_getElem?
  intro m
  by_cases hm : n = m
  · subst hm
    have hlt := (List.getElem?_eq_some_iff.mp h).1
    simp [hlt, h]
  · simp [List.getElem?_set_ne hm]

/-- `w'` holds the new wrapper `id`, absent from `w`, on a slot that was free in `w`: the only
flag that differs. -/
def Opens (w w' : World) (id : Nat) : Prop :=
  w.sockets id = none ∧ ∃ s n, w'.sockets id = some s ∧
    (w.pools s.pool).used[n]? = some false ∧ s.token = (w.pools s.pool).slot n ∧
    w'.pools = w.setSlot s.pool n true

/-- Wrapper `id` of `w` is gone from `w'`, and its slot, used in `w`, is the only flag that
differs. -/
def Frees (w w' : World) (id : Nat) : Prop :=
  w'.sockets id = none ∧ ∃ s n, w.sockets id = some s ∧
    (w.pools s.pool).used[n]? = some true ∧ s.token = (w.pools s.pool).slot n ∧
    w'.pools = w.setSlot s.pool n false

theorem World.setSlot_restore {w w₁ : World} {i n : Nat} {b c : Bool}
    (h : (w.pools i).used[n]? = some b) (e : w₁.pools = w.setSlot i n c) :
    w₁.setSlot i n b = w.pools := by
  funext j
  by_cases hj : j = i
  · subst hj; simp [World.setSlot, e, set_set_of_getElem? h]
  · simp [World.setSlot, e, hj]

namespace Owned

variable {w : World} (ho : Owned w)
include ho

theorem opened {k : Kind} {i : Nat} {h : Holder} {id : Nat} {w₁ : World}
    (e : w.newSocket k i h = some (id, w₁)) : id = w.next ∧ Opens w w₁ id ∧ Owned w₁ := by
  obtain ⟨n, hn, rfl, rfl⟩ := World.newSocket_some e
  exact ⟨rfl, ⟨ho.fresh _ le_rfl, _, n, Function.update_same .., hn, rfl, rfl⟩,
    ho.newSocket hn⟩

theorem dropped {id : Nat} {s : Socket} (hs : w.sockets id = some s) (reply : Reply) :
    ∃ w', w.fail id reply = .ok (w', reply) ∧ Frees w w' id ∧ Owned w' := by
  obtain ⟨n, hn, ht, e, ho'⟩ := ho.dropSocket hs
  exact ⟨_, by simp [World.fail, e, Except.map],
    ⟨Function.update_same .., s, n, hs, hn, ht, rfl⟩, ho'⟩

theorem opens_frees {w₁ w' : World} {id : Nat} (hop : Opens w w₁ id) (hf : Frees w₁ w' id) :
    w'.pools = w.pools := by
  obtain ⟨-, s, n, hs, hn, ht, hp⟩ := hop
  obtain ⟨-, s', n', hs', -, ht', hp'⟩ := hf
  obtain rfl := Option.some.inj (hs'.symm.trans hs)
  rw [hp, World.setSlot_slot] at ht'
  obtain rfl := ho.slot_eq (ht'.symm.trans ht)
  exact hp'.trans (World.setSlot_restore hn hp)


end Owned

end EdgeNalEmbassy
