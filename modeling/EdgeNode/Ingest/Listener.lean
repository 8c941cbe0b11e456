import EdgeNode.Ingest.Admission
import EdgeNode.Ops.Catalog
import EdgeNode.Pipeline.Definition

/-!
# Where the ingress may listen, and whom it hears

The listener binds to an address of one approved interface, and takes connections from the networks
of its configuration only. The operation that stores a configuration and the listener that is started
from it check it separately, each with its own code. Of the library's networks the model knows what
`IpNets` says; `Texts` reads addresses and networks.
-/

namespace EdgeNode

namespace Ingest

/-! ## Addresses -/

def octet (ip : BitVec 32) (i : ℕ) : ℕ := ip.toNat / 256 ^ (3 - i) % 256

def v4IsPrivate (ip : BitVec 32) : Bool :=
  octet ip 0 == 10 || (octet ip 0 == 172 && 16 ≤ octet ip 1 && octet ip 1 ≤ 31)
    || (octet ip 0 == 192 && octet ip 1 == 168)

def v4IsLoopback (ip : BitVec 32) : Bool := octet ip 0 == 127

/-- `segments()[0]`. -/
def segment0 (ip : BitVec 128) : BitVec 16 := ip.extractLsb' 112 16

/-- `(segments()[0] & 0xfe00) == 0xfc00`. -/
def v6IsUniqueLocal (ip : BitVec 128) : Bool := (segment0 ip &&& 0xfe00) == 0xfc00

def v6IsLoopback (ip : BitVec 128) : Bool := ip == 1

/-- The address of `::ffff:a.b.c.d`. -/
def toIpv4Mapped (ip : BitVec 128) : Option (BitVec 32) :=
  if ip.toNat / 2 ^ 32 = 0xffff then some (ip.setWidth 32) else none

namespace IpAddr

def isUnspecified : IpAddr → Bool
  | .v4 ip => ip == 0
  | .v6 ip => ip == 0

def isLoopback : IpAddr → Bool
  | .v4 ip => v4IsLoopback ip
  | .v6 ip => v6IsLoopback ip

/-- 169.254/16 and fe80::/10. -/
def isLinkLocal : IpAddr → Bool
  | .v4 ip => octet ip 0 == 169 && octet ip 1 == 254
  | .v6 ip => (segment0 ip &&& 0xffc0) == 0xfe80

/-- The standard library's form of `normalizeIp`. -/
def toCanonical : IpAddr → IpAddr
  | .v4 ip => .v4 ip
  | .v6 ip => (toIpv4Mapped ip).elim (.v6 ip) .v4

end IpAddr

def normalizeIp : IpAddr → IpAddr
  | .v6 ip => ((toIpv4Mapped ip).map IpAddr.v4).getD (.v6 ip)
  | ip => ip

structure SocketAddr where
  ip : IpAddr
  port : ℕ
  deriving DecidableEq, Repr

/-! ## Networks -/

/-- The library of networks. One of IPv4 is an interval, from its network to its broadcast address;
one of IPv6 holds the addresses that share the leading bits of its network address. -/
structure IpNets where
  Net4 : Type
  Net6 : Type
  new4 : BitVec 32 → ℕ → Option Net4
  network4 : Net4 → BitVec 32
  broadcast4 : Net4 → BitVec 32
  contains4 : Net4 → BitVec 32 → Bool
  length6 : Net6 → ℕ
  network6 : Net6 → BitVec 128
  contains6 : Net6 → BitVec 128 → Bool
  new4_ok : ∀ address length, length ≤ 32 → ∃ net, new4 address length = some net
    ∧ (network4 net).toNat = address.toNat / 2 ^ (32 - length) * 2 ^ (32 - length)
    ∧ (broadcast4 net).toNat
      = address.toNat / 2 ^ (32 - length) * 2 ^ (32 - length) + (2 ^ (32 - length) - 1)
  contains4_iff : ∀ net ip, contains4 net ip = true ↔ network4 net ≤ ip ∧ ip ≤ broadcast4 net
  length6_le : ∀ net, length6 net ≤ 128
  contains6_iff : ∀ net ip, contains6 net ip = true
    ↔ ip.toNat / 2 ^ (128 - length6 net) = (network6 net).toNat / 2 ^ (128 - length6 net)

inductive IpNet (nets : IpNets) where
  | v4 (net : nets.Net4)
  | v6 (net : nets.Net6)

variable {nets : IpNets}

/-- The library's own `contains`, which keeps the families apart. -/
def IpNet.contains : IpNet nets → IpAddr → Bool
  | .v4 net, .v4 ip => nets.contains4 net ip
  | .v6 net, .v6 ip => nets.contains6 net ip
  | _, _ => false

/-- The network lies within the block given by a literal. -/
def withinBlock (net : nets.Net4) (address : BitVec 32) (length : ℕ) : Bool :=
  (nets.new4 address length).any fun block =>
    nets.contains4 block (nets.network4 net) && nets.contains4 block (nets.broadcast4 net)

/-- 10.0.0.0/8, 172.16.0.0/12 or 192.168.0.0/16. -/
def withinPrivateBlock (net : nets.Net4) : Bool :=
  withinBlock net 0x0A000000 8 || withinBlock net 0xAC100000 12 || withinBlock net 0xC0A80000 16

def v6NetIsUniqueLocal (net : nets.Net6) : Bool :=
  decide (7 ≤ nets.length6 net) && v6IsUniqueLocal (nets.network6 net)

/-! ## The listener -/

inductive ListenerError where
  | internetCapableExposure
  | publicAddress
  | unapprovedInterface
  | bindNotOnInterface
  | missingLocalIngressCidr
  | bindOutsideLocalIngressCidr
  | peerOutsideLocalIngressCidr
  deriving DecidableEq, Repr

def cidrContains (cidr : IpNet nets) (ip : IpAddr) : Bool :=
  match cidr, normalizeIp ip with
  | .v4 cidr, .v4 ip => nets.contains4 cidr ip
  | .v6 cidr, .v6 ip => nets.contains6 cidr ip
  | _, _ => false

def validateCidr (cidr : IpNet nets) (allowLoopback : Bool) : Except ListenerError Unit :=
  let contained := match cidr with
    | .v4 net => withinPrivateBlock net
        || (allowLoopback
          && (nets.new4 0x7F000000 8).any (fun block => nets.contains4 block (nets.network4 net))
          && v4IsLoopback (nets.broadcast4 net))
    | .v6 net => v6NetIsUniqueLocal net
  if contained then .ok () else .error .internetCapableExposure

def validatePrivateIp (ip : IpAddr) (allowLoopback : Bool) : Except ListenerError Unit :=
  let safe := match normalizeIp ip with
    | .v4 ip => v4IsPrivate ip || (allowLoopback && v4IsLoopback ip)
    | .v6 ip => v6IsUniqueLocal ip || (allowLoopback && v6IsLoopback ip)
  if safe then .ok () else .error .publicAddress

def validatePeer (peer : SocketAddr) (cidrs : List (IpNet nets)) : Except ListenerError Unit := do
  let peer := normalizeIp peer.ip
  validatePrivateIp peer true
  if cidrs.any fun cidr => cidrContains cidr peer then .ok ()
  else .error .peerOutsideLocalIngressCidr

/-- `μ` is the material of a certificate. -/
inductive ListenerMode (μ : Type) where
  | tls (material : μ)
  | privatePlaintext

structure ListenerConfig (nets : IpNets) (μ : Type) where
  bind : SocketAddr
  interface : String
  localIngressCidrs : List (IpNet nets)
  mode : ListenerMode μ

structure ExposureSnapshot where
  interface : String
  addresses : List IpAddr
  internetDefaultRoute : Bool

def ExposureSnapshot.fromInventory (interface : String) (addresses : List IpAddr)
    (internetDefaultRoute : Bool) : Except ListenerError ExposureSnapshot :=
  if isBlank interface ∨ 64 < interface.utf8ByteSize then .error .unapprovedInterface
  else if (addresses.map normalizeIp).isEmpty then .error .unapprovedInterface
  else .ok ⟨interface, addresses.map normalizeIp, internetDefaultRoute⟩

structure ValidatedListenerConfig (nets : IpNets) (μ : Type) where
  config : ListenerConfig nets μ
  degraded : Bool

variable {μ : Type}

def ListenerMode.isPrivatePlaintext : ListenerMode μ → Bool
  | .privatePlaintext => true
  | .tls _ => false

def ValidatedListenerConfig.validate (config : ListenerConfig nets μ) (exposure : ExposureSnapshot)
    (allowLoopback : Bool) : Except ListenerError (ValidatedListenerConfig nets μ) :=
  let config := { config with bind := { config.bind with ip := normalizeIp config.bind.ip } }
  if isBlank config.interface ∨ 64 < config.interface.utf8ByteSize
      ∨ config.interface ≠ exposure.interface then
    .error .unapprovedInterface
  else if config.bind.ip.isUnspecified then .error .internetCapableExposure
  else if config.bind.ip ∉ exposure.addresses then .error .bindNotOnInterface
  else if config.localIngressCidrs.isEmpty ∨ 8 < config.localIngressCidrs.length then
    .error .missingLocalIngressCidr
  else do
    config.localIngressCidrs.forM fun cidr => validateCidr cidr allowLoopback
    if ¬ config.localIngressCidrs.any fun cidr => cidrContains cidr config.bind.ip then
      .error .bindOutsideLocalIngressCidr
    else do
      validatePrivateIp config.bind.ip allowLoopback
      pure ⟨config, config.mode.isPrivatePlaintext⟩

def ValidatedListenerConfig.new (config : ListenerConfig nets μ) (exposure : ExposureSnapshot) :
    Except ListenerError (ValidatedListenerConfig nets μ) :=
  ValidatedListenerConfig.validate config exposure false

/-! ## The operation -/

structure Texts (nets : IpNets) where
  socketAddr : String → Option SocketAddr
  ipNet : String → Option (IpNet nets)

inductive IngressListenerMode where
  | tls
  | privatePlaintext
  deriving DecidableEq, Repr

def privateNetwork : IpNet nets → Bool
  | .v4 net => withinPrivateBlock net
  | .v6 net => v6NetIsUniqueLocal net

def isPrivateAddress : IpAddr → Bool
  | .v4 ip => v4IsPrivate ip
  | .v6 ip => v6IsUniqueLocal ip

def validateParsed (ip : IpAddr) (cidrs : List (IpNet nets)) (mode : IngressListenerMode) :
    Except OpError Unit :=
  if cidrs.any (fun cidr => !privateNetwork cidr) ∨ ¬ cidrs.any fun cidr => cidr.contains ip then
    .error (.validation "unsafe_ingress_exposure")
  else if mode = .privatePlaintext ∧ isPrivateAddress ip = false then
    .error (.validation "unsafe_plaintext")
  else .ok ()

def validateLocalIngressConfig (texts : Texts nets) (bindAddr interface : String)
    (cidrs : List String) (mode : IngressListenerMode) : Except OpError Unit :=
  if 64 < interface.utf8ByteSize ∨ 8 < cidrs.length
      ∨ cidrs.any fun cidr => cidr.isEmpty || decide (64 < cidr.utf8ByteSize) then
    .error (.validation "invalid_ingress_exposure_shape")
  else
    match texts.socketAddr bindAddr with
    | none => .error (.validation "invalid_bind")
    | some bind =>
      let ip := bind.ip.toCanonical
      if ip.isUnspecified ∨ ip.isLoopback ∨ isBlank interface ∨ interface = "lo" then
        .error (.validation "unsafe_ingress_exposure")
      else if isPrivateAddress ip = false ∨ cidrs.isEmpty then
        .error (.validation "unsafe_ingress_exposure")
      else
        match cidrs.mapM texts.ipNet with
        | none => .error (.validation "invalid_local_ingress_cidr")
        | some parsed => validateParsed ip parsed mode

end Ingest

end EdgeNode
