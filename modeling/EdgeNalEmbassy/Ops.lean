import EdgeNalEmbassy.Pool
import EdgeNalEmbassy.Net

/-! # Datagrams, multicast groups and name lookups

The operations of `udp.rs`, `raw.rs` and `dns.rs` on a live socket or on the stack. Each
forwards one engine call, whose answer is a parameter, and wraps its error. What the crate
adds is the address conversion of `send`, the sender's address of `receive`, the gating of
multicast by the crate's `multicast` feature, and the query type and first answer of a name
lookup. An operation that may touch the engine also returns what it handed to it.
-/

namespace EdgeNalEmbassy

/-- `UdpSend::send` to `remote`: the endpoint handed to the engine's `send_to`, if any, and the
result; `sendTo` is the engine's answer. -/
def UdpSocket.send (f : Features) (remote : SocketAddr)
    (sendTo : IpEndpoint → Except EngineError Unit) : Option IpEndpoint × Except UdpError Unit :=
  match toEmbSocket f remote with
  | none => (none, .error .unsupportedProto)
  | some ep => (some ep, (sendTo ep).mapError .send)

/-- `UdpReceive::receive`, on the engine's `recv_from`: the length and the sender. -/
def UdpSocket.receive (r : Except EngineError (Nat × IpEndpoint)) :
    Except UdpError (Nat × SocketAddr) :=
  match r with
  | .ok (len, ep) => .ok (len, toNetSocket ep)
  | .error e => .error (.recv e)

/-- `edge_nal::MacAddr`. -/
def MacAddr := Fin 6 → UInt8

/-- `RawReceive::receive`, on the engine's `poll_recv`: the engine gives no sender, and the
MAC address `[0; 6]` is reported. -/
def RawSocket.receive (r : Except EngineError Nat) : Except RawError (Nat × MacAddr) :=
  match r with
  | .ok len => .ok (len, fun _ => 0)
  | .error e => .error (.recv e)

/-! ## Multicast -/

/-- `embassy_net::MulticastError`. -/
inductive MulticastError where
  | groupTableFull
  | unaddressable
  deriving DecidableEq, Repr

/-- `From<MulticastError> for UdpError`. -/
def UdpError.ofMulticast : MulticastError → UdpError
  | .groupTableFull => .multicastGroupTableFull
  | .unaddressable => .multicastUnaddressable

/-- The engine's `join_multicast_group` and `leave_multicast_group`. -/
structure GroupTable where
  join : IpAddress → Except MulticastError Unit
  leave : IpAddress → Except MulticastError Unit

/-- The body of `join_v4`, `leave_v4`, `join_v6` and `leave_v6`: with the crate's `multicast`
feature, the group converted by `to_emb_addr` is handed to the engine's `op`; without it,
`UnsupportedProto`. -/
def UdpSocket.multicastGroup (f : Features) (multicast : Bool) (group : IpAddr)
    (op : IpAddress → Except MulticastError Unit) : Option IpAddress × Except UdpError Unit :=
  if multicast then
    match toEmbAddr f group with
    | none => (none, .error .unsupportedProto)
    | some a => (some a, (op a).mapError UdpError.ofMulticast)
  else (none, .error .unsupportedProto)

/-- `MulticastV4::join_v4`; the interface is ignored. -/
def UdpSocket.joinV4 (f : Features) (multicast : Bool) (g : GroupTable) (multicastAddr : BitVec 32)
    (_interface : BitVec 32) : Option IpAddress × Except UdpError Unit :=
  UdpSocket.multicastGroup f multicast (.v4 multicastAddr) g.join

/-- `MulticastV4::leave_v4`; the interface is ignored. -/
def UdpSocket.leaveV4 (f : Features) (multicast : Bool) (g : GroupTable) (multicastAddr : BitVec 32)
    (_interface : BitVec 32) : Option IpAddress × Except UdpError Unit :=
  UdpSocket.multicastGroup f multicast (.v4 multicastAddr) g.leave

/-- `MulticastV6::join_v6`; the interface is ignored. -/
def UdpSocket.joinV6 (f : Features) (multicast : Bool) (g : GroupTable)
    (multicastAddr : BitVec 128) (_interface : UInt32) : Option IpAddress × Except UdpError Unit :=
  UdpSocket.multicastGroup f multicast (.v6 multicastAddr) g.join

/-- `MulticastV6::leave_v6`; the interface is ignored. -/
def UdpSocket.leaveV6 (f : Features) (multicast : Bool) (g : GroupTable)
    (multicastAddr : BitVec 128) (_interface : UInt32) : Option IpAddress × Except UdpError Unit :=
  UdpSocket.multicastGroup f multicast (.v6 multicastAddr) g.leave

/-! ## Name lookups -/

/-- `edge_nal::AddrType`. -/
inductive AddrType where
  | iPv4
  | iPv6
  | either
  deriving DecidableEq, Repr

/-- `embassy_net::dns::DnsQueryType`. -/
inductive DnsQueryType where
  | a
  | aaaa
  deriving DecidableEq, Repr

/-- `embassy_net::dns::Error`. -/
inductive DnsEngineError where
  | invalidName
  | nameTooLong
  | failed
  deriving DecidableEq, Repr

/-- `DnsError`. -/
structure DnsError where
  e : DnsEngineError
  deriving DecidableEq, Repr

/-- `embedded_io_async::Error::kind` for `DnsError`. -/
def DnsError.kind (_ : DnsError) : ErrorKind := .other

/-- `Dns::get_host_by_name`, on the engine's answers to `dns_query` for the host: the query
type asked and the result. -/
def Dns.getHostByName (addrType : AddrType)
    (dnsQuery : DnsQueryType → Except DnsEngineError (List IpAddress)) :
    DnsQueryType × Except DnsError IpAddr :=
  let qtype : DnsQueryType := match addrType with
    | .iPv6 => .aaaa
    | _ => .a
  (qtype, match dnsQuery qtype with
    | .error e => .error ⟨e⟩
    | .ok addrs =>
      match addrs.head? with
      | some first => .ok first.toIpAddr
      | none => .error ⟨.failed⟩)

/-- `Dns::get_host_by_address` is `todo!()`. -/
def Dns.getHostByAddress (_addr : IpAddr) : Except Fault Nat := .error .panic

/-! ## Addresses on the datagram path -/

end EdgeNalEmbassy
