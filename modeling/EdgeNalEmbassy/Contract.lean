import EdgeNalEmbassy.PoolRun
import EdgeNalEmbassy.Lifecycle

/-! # The sockets keep the contract of `Pool::free`

`Pool::free` is `unsafe`: it must be given a pointer that `alloc` returned and that has not
been freed since. The world records every call made on a pool (`World.calls`); seen one pool at
a time, with the tokens of its live wrappers as the pointers a client of `Pool` holds
(`World.client`), the calls recorded on a pool replay from `Pool::new()` as a run of that client
in which every `free` is given a pointer it holds (`Client.Replays`), and end in the pool and the
tokens of the world. A `Drop` that freed twice, or a path that freed a token its wrapper had
already given back, would break the replay.

`Ops` says once which pool operations a step makes, whatever the world; the invariant `Owned`
then gives that each `free` is of a held pointer.
-/

namespace EdgeNalEmbassy

namespace Client

/-- The client makes the calls `ops` in order, each allowed when it is made, and ends in `c'`. -/
inductive Replays (c : Client) : List Op → Client → Prop
  | nil : Replays c [] c
  | snoc {ops : List Op} {c' c'' : Client} {op : Op} :
      Replays c ops c' → c'.Allowed op → c'.step op = .ok c'' → Replays c (ops ++ [op]) c''

theorem Replays.reachable {c c' : Client} {ops : List Op} (hc : Reachable c)
    (h : Replays c ops c') : Reachable c' := by
  induction h with
  | nil => exact hc
  | snoc _ ha hs ih => exact .step ih ha hs

end Client

/-- The pool operations of one step, in order: the `alloc` of a factory's `new`, the `free` of a
`Drop`, and the hand-over of a wrapper to another holder. -/
inductive Ops : World → World → Prop
  | refl (w : World) : Ops w w
  | new {w w₁ w' : World} {k : Kind} {i id : Nat} {h : Holder} :
      w.newSocket k i h = some (id, w₁) → Ops w₁ w' → Ops w w'
  | drop {w w₁ w' : World} {id : Nat} : w.dropSocket id = .ok w₁ → Ops w₁ w' → Ops w w'
  | hold {w w' : World} {id : Nat} {h : Holder} : Ops (w.hold id h) w' → Ops w w'

namespace Ops

variable {w w' : World} {id : Nat} {reply reply' : Reply}

theorem fail (h : w.fail id reply = .ok (w', reply')) : Ops w w' := by
  cases hd : w.dropSocket id with
  | error => simp [World.fail, hd, Except.map] at h
  | ok w₁ =>
    simp only [World.fail, hd, Except.map, Except.ok.injEq, Prod.mk.injEq] at h
    exact .drop hd (h.1 ▸ .refl _)

theorem connected {r : Except EngineError Unit} (h : Tcp.connected w id r = .ok (w', reply)) :
    Ops w w' := by
  cases r with
  | ok => cases h; exact .hold (.refl _)
  | error => exact fail h

theorem accepted {r : Except EngineError (Option IpEndpoint)}
    (h : TcpAccept.accepted w id r = .ok (w', reply)) : Ops w w' := by
  rcases r with _ | _ | _
  · exact fail h
  · cases h
  · cases h; exact .hold (.refl _)

theorem connect {f : Features} {i : Nat} {remote : SocketAddr}
    {first : Poll (Except EngineError Unit)}
    (h : Tcp.connect f w i remote first = .ok (w', reply)) : Ops w w' := by
  unfold Tcp.connect TcpSocket.new at h
  cases hnew : w.newSocket .tcp i .connecting with
  | none => simp only [hnew, Option.elim_none, Option.elim_some] at h; cases h; exact .refl _
  | some p =>
    obtain ⟨id, w₁⟩ := p
    simp only [hnew, Option.elim_none, Option.elim_some] at h
    refine .new hnew ?_
    split at h
    · exact fail h
    · split at h
      · cases h; exact .refl _
      · exact connected h

theorem accept {f : Features} {i : Nat} {addr : SocketAddr}
    {first : Poll (Except EngineError (Option IpEndpoint))}
    (h : TcpAccept.accept f w i addr first = .ok (w', reply)) : Ops w w' := by
  unfold TcpAccept.accept TcpSocket.new at h
  cases hnew : w.newSocket .tcp i .accepting with
  | none => simp only [hnew, Option.elim_none, Option.elim_some] at h; cases h; exact .refl _
  | some p =>
    obtain ⟨id, w₁⟩ := p
    simp only [hnew, Option.elim_none, Option.elim_some] at h
    refine .new hnew ?_
    split at h
    · exact fail h
    · split at h
      · cases h; exact .refl _
      · exact accepted h

theorem udpBind {f : Features} {i : Nat} {addr : SocketAddr} {r : Except EngineError Unit}
    (h : Udp.bind f w i addr r = .ok (w', reply)) : Ops w w' := by
  unfold Udp.bind UdpSocket.new at h
  cases hnew : w.newSocket .udp i (.caller 0) with
  | none => simp only [hnew, Option.elim_none, Option.elim_some] at h; cases h; exact .refl _
  | some p =>
    obtain ⟨id, w₁⟩ := p
    simp only [hnew, Option.elim_none, Option.elim_some] at h
    refine .new hnew ?_
    split at h
    · exact fail h
    · split at h
      · cases h; exact .refl _
      · exact fail h

theorem rawBind {i : Nat} (h : Raw.bind w i = .ok (w', reply)) : Ops w w' := by
  unfold Raw.bind RawSocket.new at h
  cases hnew : w.newSocket .raw i (.caller 0) with
  | none => simp only [hnew, Option.elim_none, Option.elim_some] at h; cases h; exact .refl _
  | some p =>
    obtain ⟨id, w₁⟩ := p
    simp only [hnew, Option.elim_none, Option.elim_some] at h
    cases h
    exact .new hnew (.refl _)

/-- What a step that returns does to the pools: its `alloc`s, `free`s and hand-overs. -/
theorem of_step {f : Features} {e : Event} (h : w.step f e = some (.ok (w', reply))) :
    Ops w w' := by
  cases e with
  | connect => exact connect (Option.some.inj h)
  | accept => exact accept (Option.some.inj h)
  | udpBind => exact udpBind (Option.some.inj h)
  | rawBind => exact rawBind (Option.some.inj h)
  | connected =>
    simp only [World.step] at h
    split at h
    · exact connected (Option.some.inj h)
    · cases h
  | accepted =>
    simp only [World.step] at h
    split at h
    · exact accepted (Option.some.inj h)
    · cases h
  | abandon =>
    simp only [World.step] at h
    split at h
    · exact fail (Option.some.inj h)
    · exact fail (Option.some.inj h)
    · cases h
  | split | dropHalf =>
    simp only [World.step] at h
    split at h
    · cases h; exact .hold (.refl _)
    · cases h
  | drop =>
    simp only [World.step] at h
    split at h
    · exact fail (Option.some.inj h)
    · cases h

end Ops

namespace World

/-- The token that wrapper `id` holds on pool `i`, if it is live and on that pool. -/
def tokenOn (sockets : Nat → Option Socket) (i id : Nat) : Option Nat :=
  match sockets id with
  | some s => if s.pool = i then some s.token else none
  | none => none

/-- The tokens that the wrappers below id `n` hold on pool `i`, newest first. -/
def heldBelow (sockets : Nat → Option Socket) (i : Nat) : Nat → List Nat
  | 0 => []
  | n + 1 => (tokenOn sockets i n).toList ++ heldBelow sockets i n

/-- Pool `i` as a client of `Pool`: the pool, and the pointers its live wrappers hold. -/
def client (w : World) (i : Nat) : Client := ⟨w.pools i, heldBelow w.sockets i w.next⟩

/-- The calls recorded on pool `i`, oldest first. -/
def callsOn (calls : List (Nat × Op)) (i : Nat) : List Op :=
  calls.filterMap fun c => if c.1 = i then some c.2 else none

theorem callsOn_snoc (calls : List (Nat × Op)) (j : Nat) (op : Op) (i : Nat) :
    callsOn (calls ++ [(j, op)]) i = callsOn calls i ++ if j = i then [op] else [] := by
  by_cases h : j = i <;> simp [callsOn, h]

variable {s s' : Nat → Option Socket} {i n : Nat}

theorem tokenOn_eq_some {id t : Nat} :
    tokenOn s i id = some t ↔ ∃ x, s id = some x ∧ x.pool = i ∧ x.token = t := by
  unfold tokenOn
  cases s id with
  | none => simp
  | some x => by_cases hp : x.pool = i <;> simp [hp]

theorem heldBelow_congr (h : ∀ m < n, tokenOn s i m = tokenOn s' i m) :
    heldBelow s i n = heldBelow s' i n := by
  induction n with
  | zero => rfl
  | succ n ih =>
    simp only [heldBelow, h n (Nat.lt_succ_self n), ih fun m hm => h m (by omega)]

theorem tokenOn_update_ne {id m : Nat} {x : Option Socket} (h : m ≠ id) :
    tokenOn (Function.update s id x) i m = tokenOn s i m := by
  simp only [tokenOn, Function.update_noteq h]

theorem heldBelow_update {id : Nat} {x : Option Socket}
    (h : id < n → tokenOn (Function.update s id x) i id = tokenOn s i id) :
    heldBelow (Function.update s id x) i n = heldBelow s i n :=
  heldBelow_congr fun m hm => by
    by_cases e : m = id
    · subst e; exact h hm
    · exact tokenOn_update_ne e

theorem mem_heldBelow {t : Nat} : t ∈ heldBelow s i n ↔ ∃ m < n, tokenOn s i m = some t := by
  induction n with
  | zero => simp [heldBelow]
  | succ n ih =>
    simp only [heldBelow, List.mem_append, Option.mem_toList, ih]
    constructor
    · rintro (h | ⟨m, hm, h⟩)
      exacts [⟨n, Nat.lt_succ_self n, Option.mem_def.mp h⟩, ⟨m, by omega, h⟩]
    · rintro ⟨m, hm, h⟩
      rcases Nat.lt_succ_iff_lt_or_eq.mp hm with hm | rfl
      exacts [.inr ⟨m, hm, h⟩, .inl h]

theorem heldBelow_erase {id t : Nat} (ht : tokenOn s i id = some t) (hid : id < n)
    (huniq : ∀ m < n, m ≠ id → tokenOn s i m ≠ some t) :
    heldBelow (Function.update s id none) i n = (heldBelow s i n).erase t := by
  induction n with
  | zero => omega
  | succ n ih =>
    by_cases e : n = id
    · subst e
      have below : heldBelow (Function.update s n none) i n = heldBelow s i n :=
        heldBelow_update fun h => absurd h (Nat.lt_irrefl n)
      have gone : tokenOn (Function.update s n none) i n = none := by simp [tokenOn]
      rw [heldBelow, heldBelow, gone, ht, below]
      exact (List.erase_cons_head t _).symm
    · have hn := huniq n (Nat.lt_succ_self n) e
      rw [heldBelow, heldBelow, ih (by omega) fun m hm => huniq m (by omega), tokenOn_update_ne e]
      cases hx : tokenOn s i n with
      | none => rfl
      | some x => exact (List.erase_cons_tail (by simpa [hx] using hn)).symm

variable {w w₁ : World}

theorem newSocket_alloc {k : Kind} {j id : Nat} {h : Holder}
    (e : w.newSocket k j h = some (id, w₁)) :
    ∃ token p, (w.pools j).alloc = (some token, p) ∧ w₁ = ⟨Function.update w.pools j p,
      Function.update w.sockets w.next (some ⟨k, j, token, h⟩), w.next + 1,
      w.calls ++ [(j, .alloc)]⟩ := by
  rcases hr : (w.pools j).alloc with ⟨_ | token, p⟩ <;> simp [newSocket, allocOn, hr] at e
  obtain ⟨-, rfl⟩ := e
  exact ⟨token, p, rfl, rfl⟩

theorem replays_new {k : Kind} {j id : Nat} {h : Holder} (e : w.newSocket k j h = some (id, w₁))
    {c : Client} {i : Nat} (hr : Client.Replays c (callsOn w.calls i) (w.client i)) :
    Client.Replays c (callsOn w₁.calls i) (w₁.client i) := by
  obtain ⟨token, p, ha, rfl⟩ := newSocket_alloc e
  have below : heldBelow (Function.update w.sockets w.next (some ⟨k, j, token, h⟩)) i w.next =
      heldBelow w.sockets i w.next :=
    heldBelow_update fun h => absurd h (Nat.lt_irrefl _)
  rw [callsOn_snoc]
  by_cases hj : j = i
  · subst hj
    rw [if_pos rfl]
    refine hr.snoc trivial ?_
    simp [Client.step, client, ha, heldBelow, tokenOn, below]
  · simpa [client, heldBelow, tokenOn, hj, below, Function.update_noteq (Ne.symm hj)] using hr

theorem client_hold (w : World) (id : Nat) (h : Holder) (i : Nat) :
    (w.hold id h).client i = w.client i := by
  unfold hold
  split
  · rfl
  · next s hs => exact congrArg _ (heldBelow_update fun _ => by simp [tokenOn, hs])

theorem hold_calls (w : World) (id : Nat) (h : Holder) : (w.hold id h).calls = w.calls := by
  unfold hold
  split <;> rfl

end World

theorem Owned.replays_drop {w w₁ : World} (ho : Owned w) {id : Nat}
    (hd : w.dropSocket id = .ok w₁) {c : Nat → Client}
    (hr : ∀ i, Client.Replays (c i) (World.callsOn w.calls i) (w.client i)) :
    Owned w₁ ∧ ∀ i, Client.Replays (c i) (World.callsOn w₁.calls i) (w₁.client i) := by
  cases hs : w.sockets id with
  | none =>
    simp only [World.dropSocket, hs, Except.ok.injEq] at hd
    subst hd
    exact ⟨ho, hr⟩
  | some s =>
    obtain ⟨n, hn, ht, e, ho'⟩ := ho.dropSocket hs
    rw [e] at hd
    cases hd
    refine ⟨ho', fun i => ?_⟩
    have hid : id < w.next := Nat.lt_of_not_le fun h => by simp [ho.fresh id h] at hs
    rw [World.callsOn_snoc]
    by_cases hp : s.pool = i
    · subst hp
      have htok : World.tokenOn w.sockets s.pool id = some s.token := by simp [World.tokenOn, hs]
      have huniq : ∀ m < w.next, m ≠ id → World.tokenOn w.sockets s.pool m ≠ some s.token := by
        intro m _ hm htm
        obtain ⟨y, hy, hyp, hyt⟩ := World.tokenOn_eq_some.mp htm
        exact hm (ho.unique m id y s hy hs hyp hyt)
      have hlt : n < (w.pools s.pool).used.length := (List.getElem?_eq_some_iff.mp hn).1
      rw [if_pos rfl]
      refine (hr s.pool).snoc (World.mem_heldBelow.mpr ⟨id, hid, htok⟩) ?_
      simp [Client.step, World.client, ht, Pool.free_slot _ (ho.sized _) hlt, Except.map,
        World.heldBelow_erase htok hid huniq, World.setSlot]
    · have kept : World.heldBelow (Function.update w.sockets id none) i w.next =
          World.heldBelow w.sockets i w.next :=
        World.heldBelow_update fun _ => by simp [World.tokenOn, hs, hp]
      simpa [hp, World.client, World.setSlot_ne w n false (Ne.symm hp), kept] using hr i

theorem Owned.ops_replay {w w' : World} (ho : Owned w) (hops : Ops w w') {c : Nat → Client}
    (hr : ∀ i, Client.Replays (c i) (World.callsOn w.calls i) (w.client i)) :
    Owned w' ∧ ∀ i, Client.Replays (c i) (World.callsOn w'.calls i) (w'.client i) := by
  induction hops with
  | refl => exact ⟨ho, hr⟩
  | new hnew _ ih => exact ih (ho.opened hnew).2.2 fun i => World.replays_new hnew (hr i)
  | drop hd _ ih =>
    obtain ⟨ho₁, hr₁⟩ := ho.replays_drop hd hr
    exact ih ho₁ hr₁
  | @hold w _ id h _ ih =>
    have ho' : Owned (w.hold id h) := by
      cases hs : w.sockets id with
      | none => simpa [World.hold, hs] using ho
      | some s => exact (ho.hold hs h).2
    exact ih ho' fun i => by rw [World.hold_calls, World.client_hold]; exact hr i

/-- From fresh pools of non-zero element size, along any interleaving: the calls recorded on
each pool replay from `Pool::new()` as a run of a client of `Pool` in which every `free` is given
a pointer that an `alloc` returned and that was not freed since, and the run ends in the pool and
the tokens of the live wrappers on it. So each pool, with those tokens, is a state of a client
that kept the contract. -/
theorem pools_keep_free_contract {f : Features} {cap data size : Nat → Nat}
    {h : ∀ i, 0 < data i} {w : World} (hs : ∀ i, 0 < size i)
    (hw : Reachable f (World.init cap data size h) w) (i : Nat) :
    Client.Replays ⟨Pool.new (cap i) (data i) (size i) (h i), []⟩ (World.callsOn w.calls i)
      (w.client i) ∧ Client.Reachable (w.client i) := by
  have key : ∀ i, Client.Replays ⟨Pool.new (cap i) (data i) (size i) (h i), []⟩
      (World.callsOn w.calls i) (w.client i) := by
    induction hw with
    | refl => exact fun _ => .nil
    | step hw he ih => exact ((hw.owned hs).ops_replay (Ops.of_step he) ih).2
  exact ⟨key i, (key i).reachable (.new _ _ _ _)⟩

theorem refusedThenConnect_replays :
    ∃ w, Reachable ⟨true, true⟩ twoSlotPools w ∧
      World.callsOn w.calls 0 = [.alloc, .free 16, .alloc] ∧
      Client.Replays ⟨Pool.new 2 16 8 (Nat.succ_pos 15), []⟩ (World.callsOn w.calls 0)
        (w.client 0) :=
  have hw := @Reachable.step ⟨true, true⟩ twoSlotPools _ _ (.connect 0 (.v4 2 80) .pending) _
    (@Reachable.step _ _ _ _ (.connect 0 (.v4 1 80) (.ready (.error ⟨0⟩))) _
      (@Reachable.step _ _ _ _ (.udpBind 1 (.v4 0 0) (.ok ())) _ .refl rfl) rfl) rfl
  ⟨_, hw, rfl, (pools_keep_free_contract (fun _ => Nat.succ_pos 7) hw 0).1⟩

end EdgeNalEmbassy
