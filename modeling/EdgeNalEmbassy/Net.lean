import Mathlib.Data.List.Basic

/-! # Errors and addresses

The error types of `tcp.rs`, `udp.rs` and `raw.rs`, and the address conversions of `lib.rs`.
An engine error is opaque: the crate never looks inside one, it only wraps it. Which address
families the engine understands is fixed when the crate is built, by the features
`proto-ipv4` and `proto-ipv6`.
-/

namespace EdgeNalEmbassy

/-- An error of the engine (`embassy_net`): a connect, accept, bind, read or flush error. -/
structure EngineError where
  code : Nat
  deriving DecidableEq, Repr

/-- `TcpError`. -/
inductive TcpError where
  | general (e : EngineError)
  | connect (e : EngineError)
  | accept (e : EngineError)
  | noBuffers
  | unsupportedProto
  deriving DecidableEq, Repr

/-- `UdpError`. -/
inductive UdpError where
  | recv (e : EngineError)
  | send (e : EngineError)
  | bind (e : EngineError)
  | multicastGroupTableFull
  | multicastUnaddressable
  | noBuffers
  | unsupportedProto
  deriving DecidableEq, Repr

/-- `RawError`. -/
inductive RawError where
  | recv (e : EngineError)
  | noBuffers
  deriving DecidableEq, Repr

/-- `embedded_io_async::ErrorKind`, the kinds the crate reports. -/
inductive ErrorKind where
  | other
  | outOfMemory
  | invalidInput
  deriving DecidableEq, Repr

/-- `embedded_io_async::Error::kind` for `TcpError`. -/
def TcpError.kind : TcpError → ErrorKind
  | .general _ | .connect _ | .accept _ => .other
  | .noBuffers => .outOfMemory
  | .unsupportedProto => .invalidInput

/-- `embedded_io_async::Error::kind` for `UdpError`. -/
def UdpError.kind : UdpError → ErrorKind
  | .recv _ | .send _ | .bind _ | .multicastGroupTableFull | .multicastUnaddressable => .other
  | .noBuffers => .outOfMemory
  | .unsupportedProto => .invalidInput

/-- `embedded_io_async::Error::kind` for `RawError`. -/
def RawError.kind : RawError → ErrorKind
  | .noBuffers => .outOfMemory
  | _ => .other

/-- The address families the engine was built with. -/
structure Features where
  protoIpv4 : Bool
  protoIpv6 : Bool
  deriving DecidableEq, Repr

/-- `core::net::IpAddr`. -/
inductive IpAddr where
  | v4 (a : BitVec 32)
  | v6 (a : BitVec 128)
  deriving DecidableEq, Repr

/-- `IpAddr::is_unspecified`: `0.0.0.0` or `::`. -/
def IpAddr.isUnspecified : IpAddr → Bool
  | .v4 a => a == 0
  | .v6 a => a == 0

/-- `core::net::SocketAddr`: a V6 address also carries its flow label and scope id. -/
inductive SocketAddr where
  | v4 (ip : BitVec 32) (port : UInt16)
  | v6 (ip : BitVec 128) (port : UInt16) (flowinfo : UInt32) (scopeId : UInt32)
  deriving DecidableEq, Repr

/-- `SocketAddr::ip`. -/
def SocketAddr.ip : SocketAddr → IpAddr
  | .v4 a _ => .v4 a
  | .v6 a _ _ _ => .v6 a

/-- `SocketAddr::port`. -/
def SocketAddr.port : SocketAddr → UInt16
  | .v4 _ p | .v6 _ p _ _ => p

/-- `SocketAddr::new`: a V6 address gets flow label and scope id `0`. -/
def SocketAddr.new : IpAddr → UInt16 → SocketAddr
  | .v4 a, p => .v4 a p
  | .v6 a, p => .v6 a p 0 0

/-- `embassy_net::IpAddress`. -/
inductive IpAddress where
  | ipv4 (a : BitVec 32)
  | ipv6 (a : BitVec 128)
  deriving DecidableEq, Repr

/-- `embassy_net::IpEndpoint`. -/
structure IpEndpoint where
  addr : IpAddress
  port : UInt16
  deriving DecidableEq, Repr

/-- `embassy_net::IpListenEndpoint`. -/
structure IpListenEndpoint where
  addr : Option IpAddress
  port : UInt16
  deriving DecidableEq, Repr

/-- `to_emb_addr`: an address of a family the engine was not built with has no image. -/
def toEmbAddr (f : Features) : IpAddr → Option IpAddress
  | .v4 a => if f.protoIpv4 then some (.ipv4 a) else none
  | .v6 a => if f.protoIpv6 then some (.ipv6 a) else none

/-- `to_emb_socket`. -/
def toEmbSocket (f : Features) (s : SocketAddr) : Option IpEndpoint :=
  (toEmbAddr f s.ip).map fun addr => ⟨addr, s.port⟩

/-- `to_emb_bind_socket`: the unspecified address listens on every address. -/
def toEmbBindSocket (f : Features) (s : SocketAddr) : Option IpListenEndpoint := do
  let addr ← if s.ip.isUnspecified then pure none else some <$> toEmbAddr f s.ip
  pure ⟨addr, s.port⟩

/-- `IpAddress` into `IpAddr`. -/
def IpAddress.toIpAddr : IpAddress → IpAddr
  | .ipv4 a => .v4 a
  | .ipv6 a => .v6 a

/-- `to_net_socket`. -/
def toNetSocket (e : IpEndpoint) : SocketAddr := .new e.addr.toIpAddr e.port

end EdgeNalEmbassy
