import EdgeNalEmbassy.PoolRun
import EdgeNalEmbassy.Net

/-! # Sockets and their slots

The lifecycle half of `tcp.rs`, `udp.rs` and `raw.rs`. A factory takes a slot of its pool for
each socket it opens (`TcpSocket::new` and its siblings), and the socket's `Drop` gives the
slot back. The world holds every pool and every live wrapper, whether a suspended `connect`
or `accept` future holds it or its caller does.

Async code runs in atomic steps between suspension points, and tasks interleave only there.
One `Event` is one such step, the engine's answers included: the first poll of a factory
call up to its suspension, the engine's answer to a suspended call, the drop of a suspended
future, and the caller's splits and drops. Engine calls that touch no pool (`close()` in
`Drop`, reads and writes) are left out here.

Pools are numbered, and any factory may be given any of them: the code's types give TCP, UDP
and raw sockets pools of different element types, so the runs here include some it cannot
make, and what is proved of all of them holds of its own. The world also keeps, as proof-only
history, every call made on a pool, so that what `free` is given can be checked call by call.
-/

namespace EdgeNalEmbassy

/-- The wrapper types: `TcpSocket`, `UdpSocket`, `RawSocket`. -/
inductive Kind where
  | tcp
  | udp
  | raw
  deriving DecidableEq, Repr

/-- Who holds a live wrapper. -/
inductive Holder where
  /-- A `Tcp::connect` future, suspended at `connect(..).await`. -/
  | connecting
  /-- A `TcpAccept::accept` future, suspended at `accept(..).await`. -/
  | accepting
  /-- The caller, with `halves` split halves still borrowing it. -/
  | caller (halves : Nat)
  deriving DecidableEq, Repr

/-- A live wrapper: its pool `stack_buffers`, by index, and its `buffer_token`. -/
structure Socket where
  kind : Kind
  pool : Nat
  token : Nat
  holder : Holder

/-- Every pool, every live wrapper by id (ids from `next` on were never used), and the history
of calls on the pools, oldest first, each with its pool's index. -/
structure World where
  pools : Nat → Pool
  sockets : Nat → Option Socket
  next : Nat
  calls : List (Nat × Op)

/-- The answer of a poll: ready with a value, or pending. -/
inductive Poll (α : Type) where
  | ready (a : α)
  | pending

/-- What a step hands back to the caller. -/
inductive Reply where
  /-- The call is suspended at its engine call. -/
  | pending
  /-- The call returns socket `id`, and `accept` the local address. -/
  | socket (id : Nat) (addr : Option SocketAddr)
  | tcpError (e : TcpError)
  | udpError (e : UdpError)
  | rawError (e : RawError)
  /-- A dropped future or a socket operation: nothing is returned. -/
  | unit

namespace World

/-- `Pool::new()` for every pool, and no wrapper. -/
def init (cap data size : Nat → Nat) (h : ∀ i, 0 < data i) : World :=
  ⟨fun i => Pool.new (cap i) (data i) (size i) (h i), fun _ => none, 0, []⟩

/-- `stack_buffers.alloc()` on pool `i`. -/
def allocOn (w : World) (i : Nat) : Option Nat × World :=
  let r := (w.pools i).alloc
  (r.1, { w with pools := Function.update w.pools i r.2, calls := w.calls ++ [(i, .alloc)] })

/-- `stack_buffers.free(ptr)` on pool `i`. -/
def freeOn (w : World) (i ptr : Nat) : Except Fault World :=
  ((w.pools i).free ptr).map fun p =>
    { w with pools := Function.update w.pools i p, calls := w.calls ++ [(i, .free ptr)] }

/-- The body shared by `TcpSocket::new`, `UdpSocket::new` and `RawSocket::new`: a slot of
pool `i` (`stack_buffers.alloc()`), recorded as the token of a wrapper of kind `k` under a
fresh id; `none` when the pool is exhausted, and then the `alloc` changed nothing and the
caller goes on from `w`. -/
def newSocket (w : World) (k : Kind) (i : Nat) (h : Holder) : Option (Nat × World) :=
  match w.allocOn i with
  | (some token, w₁) =>
    some (w.next, ⟨w₁.pools, Function.update w.sockets w.next (some ⟨k, i, token, h⟩),
      w.next + 1, w₁.calls⟩)
  | (none, _) => none

/-- `Drop` of wrapper `id`: `stack_buffers.free(buffer_token)`. -/
def dropSocket (w : World) (id : Nat) : Except Fault World :=
  match w.sockets id with
  | none => .ok w
  | some s => do
    let w₁ ← w.freeOn s.pool s.token
    pure { w₁ with sockets := Function.update w.sockets id none }

/-- Wrapper `id` passes to holder `h`. -/
def hold (w : World) (id : Nat) (h : Holder) : World :=
  match w.sockets id with
  | none => w
  | some s => { w with sockets := Function.update w.sockets id (some { s with holder := h }) }

/-- A call ends with `reply` after dropping its wrapper `id`. -/
def fail (w : World) (id : Nat) (reply : Reply) : Except Fault (World × Reply) :=
  (w.dropSocket id).map (·, reply)

end World

/-- `TcpSocket::new`. -/
def TcpSocket.new (w : World) (i : Nat) (h : Holder) : Except TcpError (Nat × World) :=
  (w.newSocket .tcp i h).elim (.error .noBuffers) .ok

/-- `UdpSocket::new`. -/
def UdpSocket.new (w : World) (i : Nat) (h : Holder) : Except UdpError (Nat × World) :=
  (w.newSocket .udp i h).elim (.error .noBuffers) .ok

/-- `RawSocket::new`. -/
def RawSocket.new (w : World) (i : Nat) (h : Holder) : Except RawError (Nat × World) :=
  (w.newSocket .raw i h).elim (.error .noBuffers) .ok

/-- The end of `connect(..).await?` in `Tcp::connect` for wrapper `id`. -/
def Tcp.connected (w : World) (id : Nat) : Except EngineError Unit → Except Fault (World × Reply)
  | .ok () => .ok (w.hold id (.caller 0), .socket id none)
  | .error e => w.fail id (.tcpError (.connect e))

/-- `Tcp::connect(remote)` on the factory of pool `i`, up to its suspension. -/
def Tcp.connect (f : Features) (w : World) (i : Nat) (remote : SocketAddr)
    (first : Poll (Except EngineError Unit)) : Except Fault (World × Reply) :=
  match TcpSocket.new w i .connecting with
  | .error e => .ok (w, .tcpError e)
  | .ok (id, w) =>
    match toEmbSocket f remote with
    | none => w.fail id (.tcpError .unsupportedProto)
    | some _ =>
      match first with
      | .pending => .ok (w, .pending)
      | .ready r => Tcp.connected w id r

/-- The end of `accept(..).await?` in `TcpAccept::accept` for wrapper `id`. A successful
answer carries what `local_endpoint()` then returns, which `unwrap!` requires. -/
def TcpAccept.accepted (w : World) (id : Nat) :
    Except EngineError (Option IpEndpoint) → Except Fault (World × Reply)
  | .ok (some ep) => .ok (w.hold id (.caller 0), .socket id (some (toNetSocket ep)))
  | .ok none => .error .panic
  | .error e => w.fail id (.tcpError (.accept e))

/-- `TcpAccept::accept` on the acceptor of pool `i` bound to `addr`, up to its suspension. -/
def TcpAccept.accept (f : Features) (w : World) (i : Nat) (addr : SocketAddr)
    (first : Poll (Except EngineError (Option IpEndpoint))) : Except Fault (World × Reply) :=
  match TcpSocket.new w i .accepting with
  | .error e => .ok (w, .tcpError e)
  | .ok (id, w) =>
    match toEmbBindSocket f addr with
    | none => w.fail id (.tcpError .unsupportedProto)
    | some _ =>
      match first with
      | .pending => .ok (w, .pending)
      | .ready r => TcpAccept.accepted w id r

/-- `Udp::bind(addr)` on the factory of pool `i`; `r` is the engine's `bind`. It never
suspends. -/
def Udp.bind (f : Features) (w : World) (i : Nat) (addr : SocketAddr)
    (r : Except EngineError Unit) : Except Fault (World × Reply) :=
  match UdpSocket.new w i (.caller 0) with
  | .error e => .ok (w, .udpError e)
  | .ok (id, w) =>
    match toEmbBindSocket f addr with
    | none => w.fail id (.udpError .unsupportedProto)
    | some _ =>
      match r with
      | .ok () => .ok (w, .socket id none)
      | .error e => w.fail id (.udpError (.bind e))

/-- `Raw::bind` on the factory of pool `i`. -/
def Raw.bind (w : World) (i : Nat) : Except Fault (World × Reply) :=
  match RawSocket.new w i (.caller 0) with
  | .error e => .ok (w, .rawError e)
  | .ok (id, w) => .ok (w, .socket id none)

/-- One atomic step of the program, with the engine's answers. -/
inductive Event where
  /-- `Tcp::connect` is polled for the first time. -/
  | connect (i : Nat) (remote : SocketAddr) (first : Poll (Except EngineError Unit))
  /-- The engine answers the `connect` that wrapper `id` waits on. -/
  | connected (id : Nat) (r : Except EngineError Unit)
  /-- `TcpAccept::accept` is polled for the first time. -/
  | accept (i : Nat) (addr : SocketAddr) (first : Poll (Except EngineError (Option IpEndpoint)))
  /-- The engine answers the `accept` that wrapper `id` waits on. -/
  | accepted (id : Nat) (r : Except EngineError (Option IpEndpoint))
  /-- The future suspended on wrapper `id` is dropped. -/
  | abandon (id : Nat)
  | udpBind (i : Nat) (addr : SocketAddr) (r : Except EngineError Unit)
  | rawBind (i : Nat)
  /-- `split` of wrapper `id`: two halves borrow it. -/
  | split (id : Nat)
  /-- One split half of wrapper `id` is dropped. -/
  | dropHalf (id : Nat)
  /-- The caller drops wrapper `id`. -/
  | drop (id : Nat)

/-- One step from world `w`; `none` when the event cannot happen there. -/
def World.step (f : Features) (w : World) : Event → Option (Except Fault (World × Reply))
  | .connect i remote first => some (Tcp.connect f w i remote first)
  | .connected id r =>
    match w.sockets id with
    | some ⟨_, _, _, .connecting⟩ => some (Tcp.connected w id r)
    | _ => none
  | .accept i addr first => some (TcpAccept.accept f w i addr first)
  | .accepted id r =>
    match w.sockets id with
    | some ⟨_, _, _, .accepting⟩ => some (TcpAccept.accepted w id r)
    | _ => none
  | .abandon id =>
    match w.sockets id with
    | some ⟨_, _, _, .connecting⟩ | some ⟨_, _, _, .accepting⟩ => some (w.fail id .unit)
    | _ => none
  | .udpBind i addr r => some (Udp.bind f w i addr r)
  | .rawBind i => some (Raw.bind w i)
  | .split id =>
    match w.sockets id with
    | some ⟨_, _, _, .caller 0⟩ => some (.ok (w.hold id (.caller 2), .unit))
    | _ => none
  | .dropHalf id =>
    match w.sockets id with
    | some ⟨_, _, _, .caller (k + 1)⟩ => some (.ok (w.hold id (.caller k), .unit))
    | _ => none
  | .drop id =>
    match w.sockets id with
    | some ⟨_, _, _, .caller 0⟩ => some (w.fail id .unit)
    | _ => none

/-- The worlds reached from `w₀` by steps that return. -/
inductive Reachable (f : Features) (w₀ : World) : World → Prop
  | refl : Reachable f w₀ w₀
  | step {w w' : World} {e : Event} {reply : Reply} :
      Reachable f w₀ w → w.step f e = some (.ok (w', reply)) → Reachable f w₀ w'

end EdgeNalEmbassy
