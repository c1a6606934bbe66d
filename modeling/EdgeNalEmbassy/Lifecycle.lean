import EdgeNalEmbassy.Owned

/-! # Calls, steps and runs of the socket world

What each step of `Tcp::connect`, `TcpAccept::accept`, `Udp::bind` and `Raw::bind`, of an
engine's answer, of an abandoned future and of the caller's splits and drops does to the used
flags (`Footprint`), and that every step keeps `Owned`. A call whose steps are not interleaved
with another task's (`CallRun`) returns a socket on the one slot it took, or leaves the flags
as they were. Interleaved, the flags seen around one call also show the other tasks' steps.

The only fault a step can raise is the `unwrap!` of `local_endpoint()` after an accepted
connection; `Pool::free` never faults on a world reached from pools of non-zero element size.
-/

namespace EdgeNalEmbassy

/-- The first step of a factory call. -/
def Event.IsCall : Event → Prop
  | .connect .. | .accept .. | .udpBind .. | .rawBind _ => True
  | _ => False

/-- A step that ends the call suspended on wrapper `id`. -/
def Event.Ends (id : Nat) : Event → Prop
  | .connected a _ | .accepted a _ | .abandon a => a = id
  | _ => False

/-- The engine reports an accepted connection but then no local endpoint, which `unwrap!`
turns into a panic. -/
def Event.LosesEndpoint : Event → Prop
  | .accept _ _ (.ready (.ok none)) | .accepted _ (.ok none) => True
  | _ => False

/-- A reply that ends a call without a socket: an error, or nothing for an abandoned call. -/
def Reply.Fails : Reply → Prop
  | .tcpError _ | .udpError _ | .rawError _ | .unit => True
  | _ => False

/-- How the call suspended on wrapper `id` ends: it hands the wrapper to its caller and no
flag changes, or it fails or is dropped and frees the wrapper's slot. -/
def Settles (w : World) (id : Nat) (reply : Reply) (w' : World) : Prop :=
  (∃ a, reply = .socket id a ∧ w'.pools = w.pools ∧
    w'.sockets id = (w.sockets id).map ({ · with holder := .caller 0 })) ∨
  (reply.Fails ∧ Frees w w' id)

/-- What a whole call does to the flags: it returns socket `id` on the one slot it took, or
returns no socket and leaves them as they were. -/
def CallEffect (w : World) (reply : Reply) (w' : World) : Prop :=
  (∃ id a, reply = .socket id a ∧ Opens w w' id) ∨ (reply.Fails ∧ w'.pools = w.pools)

/-- What one step does to the used flags. -/
inductive Footprint (w : World) : Event → Reply → World → Prop
  /-- A call opens a wrapper on a free slot and suspends. -/
  | suspends {e w'} : e.IsCall → Opens w w' w.next → Footprint w e .pending w'
  /-- A call runs to its end in its first step. -/
  | calls {e reply w'} : e.IsCall → CallEffect w reply w' → Footprint w e reply w'
  /-- A suspended call ends. -/
  | settles {e id reply w'} : e.Ends id → Settles w id reply w' → Footprint w e reply w'
  /-- The caller drops its socket. -/
  | drops {id w'} : Frees w w' id → Footprint w (.drop id) .unit w'
  /-- A split half is taken or dropped; no flag changes. -/
  | keeps {e id w'} : (e = .split id ∨ e = .dropHalf id) → w'.pools = w.pools →
      Footprint w e .unit w'

namespace Owned

variable {w : World} (ho : Owned w)
include ho

theorem opens_settles {w₁ w' : World} {id : Nat} {reply : Reply} (hop : Opens w w₁ id)
    (hs : Settles w₁ id reply w') : CallEffect w reply w' := by
  rcases hs with ⟨a, rfl, hp, hs'⟩ | ⟨hr, hf⟩
  · obtain ⟨hn, s, n, hs₁, hf, ht, hp₁⟩ := hop
    exact .inl ⟨id, a, rfl, hn, { s with holder := .caller 0 }, n, by rw [hs', hs₁]; rfl, hf,
      ht, hp.trans hp₁⟩
  · exact .inr ⟨hr, ho.opens_frees hop hf⟩

theorem handsOver {id : Nat} {s : Socket} (hs : w.sockets id = some s) (a : Option SocketAddr) :
    Owned (w.hold id (.caller 0)) ∧ Settles w id (.socket id a) (w.hold id (.caller 0)) := by
  obtain ⟨hp, ho'⟩ := ho.hold hs (.caller 0)
  exact ⟨ho', .inl ⟨a, rfl, hp, by simp [World.hold, hs]⟩⟩

theorem fails {id : Nat} {s : Socket} (hs : w.sockets id = some s) (reply : Reply)
    (hr : reply.Fails) :
    ∃ w' r, w.fail id reply = .ok (w', r) ∧ Owned w' ∧ Settles w id r w' := by
  obtain ⟨w', hf, hfr, ho'⟩ := ho.dropped hs reply
  exact ⟨w', reply, hf, ho', .inr ⟨hr, hfr⟩⟩

theorem begins {k : Kind} {i : Nat} {h : Holder} {id : Nat} {w₁ : World} {e : Event}
    {x : Except Fault (World × Reply)} (hnew : w.newSocket k i h = some (id, w₁)) (he : e.IsCall)
    (hx : x = .ok (w₁, .pending) ∨
      ∃ w' reply, x = .ok (w', reply) ∧ Owned w' ∧ Settles w₁ id reply w') :
    ∃ w' reply, x = .ok (w', reply) ∧ Owned w' ∧ Footprint w e reply w' := by
  obtain ⟨rfl, hop, ho₁⟩ := ho.opened hnew
  rcases hx with rfl | ⟨w', reply, rfl, ho', hs⟩
  · exact ⟨w₁, .pending, rfl, ho₁, .suspends he hop⟩
  · exact ⟨w', reply, rfl, ho', .calls he (ho.opens_settles hop hs)⟩

theorem connected {id : Nat} {s : Socket} (hs : w.sockets id = some s)
    (r : Except EngineError Unit) :
    ∃ w' reply, Tcp.connected w id r = .ok (w', reply) ∧ Owned w' ∧
      Settles w id reply w' := by
  cases r with
  | ok u => exact ⟨_, _, rfl, ho.handsOver hs none⟩
  | error e => exact ho.fails hs _ (by trivial)

theorem accepted {id : Nat} {s : Socket} (hs : w.sockets id = some s)
    (r : Except EngineError (Option IpEndpoint)) :
    (∃ w' reply, TcpAccept.accepted w id r = .ok (w', reply) ∧ Owned w' ∧
      Settles w id reply w') ∨
      (TcpAccept.accepted w id r = .error .panic ∧ r = .ok none) := by
  rcases r with e | _ | ep
  · exact .inl (ho.fails hs _ (by trivial))
  · exact .inr ⟨rfl, rfl⟩
  · exact .inl ⟨_, _, rfl, ho.handsOver hs _⟩

theorem connect (f : Features) (i : Nat) (remote : SocketAddr)
    (first : Poll (Except EngineError Unit)) :
    ∃ w' reply, Tcp.connect f w i remote first = .ok (w', reply) ∧ Owned w' ∧
      Footprint w (.connect i remote first) reply w' := by
  unfold Tcp.connect TcpSocket.new
  cases hnew : w.newSocket .tcp i .connecting with
  | none => exact ⟨w, _, rfl, ho, .calls trivial (.inr ⟨trivial, rfl⟩)⟩
  | some p =>
    obtain ⟨id, w₁⟩ := p
    obtain ⟨-, ⟨-, s, -, hs, -⟩, ho₁⟩ := ho.opened hnew
    refine ho.begins hnew trivial ?_
    dsimp only [Option.elim]
    split
    · exact .inr (ho₁.fails hs _ (by trivial))
    · split
      · exact .inl rfl
      · exact .inr (ho₁.connected hs _)

theorem accept (f : Features) (i : Nat) (addr : SocketAddr)
    (first : Poll (Except EngineError (Option IpEndpoint))) :
    (∃ w' reply, TcpAccept.accept f w i addr first = .ok (w', reply) ∧ Owned w' ∧
      Footprint w (.accept i addr first) reply w') ∨
      (TcpAccept.accept f w i addr first = .error .panic ∧ first = .ready (.ok none)) := by
  unfold TcpAccept.accept TcpSocket.new
  cases hnew : w.newSocket .tcp i .accepting with
  | none => exact .inl ⟨w, _, rfl, ho, .calls trivial (.inr ⟨trivial, rfl⟩)⟩
  | some p =>
    obtain ⟨id, w₁⟩ := p
    obtain ⟨-, ⟨-, s, -, hs, -⟩, ho₁⟩ := ho.opened hnew
    dsimp only [Option.elim]
    split
    · exact .inl (ho.begins hnew trivial (.inr (ho₁.fails hs _ (by trivial))))
    · split
      · exact .inl (ho.begins hnew trivial (.inl rfl))
      · rcases ho₁.accepted hs ‹_› with h | ⟨h, rfl⟩
        · exact .inl (ho.begins hnew trivial (.inr h))
        · exact .inr ⟨h, rfl⟩

theorem udpBind (f : Features) (i : Nat) (addr : SocketAddr) (r : Except EngineError Unit) :
    ∃ w' reply, Udp.bind f w i addr r = .ok (w', reply) ∧ Owned w' ∧
      Footprint w (.udpBind i addr r) reply w' := by
  unfold Udp.bind UdpSocket.new
  cases hnew : w.newSocket .udp i (.caller 0) with
  | none => exact ⟨w, _, rfl, ho, .calls trivial (.inr ⟨trivial, rfl⟩)⟩
  | some p =>
    obtain ⟨id, w₁⟩ := p
    obtain ⟨-, hop, ho₁⟩ := ho.opened hnew
    obtain ⟨s, -, hs, -⟩ := hop.2
    dsimp only [Option.elim]
    split
    · exact ho.begins hnew trivial (.inr (ho₁.fails hs _ (by trivial)))
    · split
      · exact ⟨w₁, _, rfl, ho₁, .calls trivial (.inl ⟨id, none, rfl, hop⟩)⟩
      · exact ho.begins hnew trivial (.inr (ho₁.fails hs _ (by trivial)))

theorem rawBind (i : Nat) :
    ∃ w' reply, Raw.bind w i = .ok (w', reply) ∧ Owned w' ∧
      Footprint w (.rawBind i) reply w' := by
  unfold Raw.bind RawSocket.new
  cases hnew : w.newSocket .raw i (.caller 0) with
  | none => exact ⟨w, _, rfl, ho, .calls trivial (.inr ⟨trivial, rfl⟩)⟩
  | some p =>
    obtain ⟨-, hop, ho₁⟩ := ho.opened hnew
    exact ⟨_, _, rfl, ho₁, .calls trivial (.inl ⟨_, none, rfl, hop⟩)⟩

/-- Every step keeps the invariant and has its footprint; the only fault is `unwrap!` on an
accepted connection with no local endpoint. In particular `Pool::free` never faults. -/
theorem step {f : Features} {e : Event} {r : Except Fault (World × Reply)}
    (hstep : w.step f e = some r) :
    (∃ w' reply, r = .ok (w', reply) ∧ Owned w' ∧ Footprint w e reply w') ∨
      (r = .error .panic ∧ e.LosesEndpoint) := by
  cases e with
  | connect i remote first => cases hstep; exact .inl (ho.connect f i remote first)
  | accept i addr first =>
    cases hstep
    rcases ho.accept f i addr first with h | ⟨h, rfl⟩
    · exact .inl h
    · exact .inr ⟨h, trivial⟩
  | udpBind i addr r => cases hstep; exact .inl (ho.udpBind f i addr r)
  | rawBind i => cases hstep; exact .inl (ho.rawBind i)
  | connected id r =>
    simp only [World.step] at hstep
    split at hstep <;> cases hstep
    obtain ⟨w', reply, h, ho', hs⟩ := ho.connected ‹_› r
    exact .inl ⟨w', reply, h, ho', .settles rfl hs⟩
  | accepted id r =>
    simp only [World.step] at hstep
    split at hstep <;> cases hstep
    rcases ho.accepted ‹_› r with ⟨w', reply, h, ho', hs⟩ | ⟨h, rfl⟩
    · exact .inl ⟨w', reply, h, ho', .settles rfl hs⟩
    · exact .inr ⟨h, trivial⟩
  | abandon id =>
    simp only [World.step] at hstep
    split at hstep <;> cases hstep
    all_goals
      obtain ⟨w', reply, h, ho', hs⟩ := ho.fails ‹_› .unit trivial
      exact .inl ⟨w', reply, h, ho', .settles rfl hs⟩
  | split id =>
    simp only [World.step] at hstep
    split at hstep <;> cases hstep
    obtain ⟨hp, ho'⟩ := ho.hold ‹_› (.caller 2)
    exact .inl ⟨_, _, rfl, ho', .keeps (.inl rfl) hp⟩
  | dropHalf id =>
    simp only [World.step] at hstep
    split at hstep <;> cases hstep
    obtain ⟨hp, ho'⟩ := ho.hold ‹_› _
    exact .inl ⟨_, _, rfl, ho', .keeps (.inr rfl) hp⟩
  | drop id =>
    simp only [World.step] at hstep
    split at hstep <;> cases hstep
    obtain ⟨w', h, hf, ho'⟩ := ho.dropped ‹_› .unit
    exact .inl ⟨w', _, h, ho', .drops hf⟩

theorem step_ok {f : Features} {e : Event} {w' : World} {reply : Reply}
    (h : w.step f e = some (.ok (w', reply))) : Owned w' ∧ Footprint w e reply w' := by
  rcases ho.step h with ⟨w'', reply', he, ho', fp⟩ | ⟨he, -⟩
  · cases he; exact ⟨ho', fp⟩
  · cases he

end Owned

namespace Footprint

variable {w w' : World} {e : Event} {reply : Reply}

end Footprint

theorem Reachable.owned {f : Features} {cap data size : Nat → Nat} {h : ∀ i, 0 < data i}
    {w : World} (hs : ∀ i, 0 < size i) (hw : Reachable f (World.init cap data size h) w) :
    Owned w := by
  induction hw with
  | refl => exact Owned.init h hs
  | step _ he ih => exact (ih.step_ok he).1

/-- Every pool of two 8-byte slots at address 16. -/
def twoSlotPools : World :=
  World.init (fun _ => 2) (fun _ => 16) (fun _ => 8) fun _ => Nat.succ_pos 15

/-- Every pool of two slots of a zero-sized `T` at address 16, as in `TcpBuffers<2, 0, 0>`. -/
def zeroSizedPools : World :=
  World.init (fun _ => 2) (fun _ => 16) (fun _ => 0) fun _ => Nat.succ_pos 15

/-- With zero-sized buffers two suspended `connect`s hold the same token, and abandoning the
first one panics in `Pool::free` instead of giving its slot back. -/
theorem zero_sized_connects_share_token :
    ∃ w, Reachable ⟨true, true⟩ zeroSizedPools w ∧
      w.sockets 0 = some ⟨.tcp, 0, 16, .connecting⟩ ∧
      w.sockets 1 = some ⟨.tcp, 0, 16, .connecting⟩ ∧
      w.step ⟨true, true⟩ (.abandon 0) = some (.error .panic) :=
  ⟨_, @Reachable.step _ _ _ _ (.connect 0 (.v4 2 80) .pending) _
      (@Reachable.step _ _ _ _ (.connect 0 (.v4 1 80) .pending) _ .refl rfl) rfl,
    rfl, rfl, rfl⟩

end EdgeNalEmbassy
