import ArpProbe.Ipv4

/-! Address resolution frames for version 4 protocol addresses, without a link header: eight
octets that say how long the addresses are, then the sender's hardware and protocol address and
the target's. A frame is built for a probe, encoded, and read back only if it answers the
outstanding query; what is wrong first is the reason it is ignored. -/

namespace ArpProbe

inductive PacketClass where
  | host
  | broadcast
  | multicast
  | other (code : UInt8)
  deriving DecidableEq, Repr, Inhabited

namespace PacketClass

def ofCode (code : UInt8) : PacketClass :=
  if code = 0 then .host
  else if code = 1 then .broadcast
  else if code = 2 then .multicast
  else .other code

def isAddressed : PacketClass → Bool
  | other _ => false
  | _ => true

def name : PacketClass → String
  | host => "Host"
  | broadcast => "Broadcast"
  | multicast => "Multicast"
  | other code => s!"Other({code.toNat})"

end PacketClass

structure LinkInfo where
  packetClass : PacketClass
  hardwareType : UInt16
  deriving DecidableEq, Repr, Inhabited

/-- The outstanding query: the probed address, the address it is asked for, and whether it only
asks if another station holds the probed address. -/
structure Query where
  target : Ipv4
  source : Ipv4
  dad : Bool
  deriving DecidableEq, Repr, Inhabited

namespace HardwareType

def ethernet : UInt16 := 1

def fddi : UInt16 := 774

def onWire (t : UInt16) : UInt16 := if t = fddi then ethernet else t

def fits (link frame : UInt16) : Bool :=
  frame = link || (link = fddi && frame = ethernet)

end HardwareType

namespace Operation

def request : UInt16 := 1

def reply : UInt16 := 2

end Operation

def protocolIpv4 : UInt16 := 0x0800

def headerLength : Nat := 8

def frameLength (n : Nat) : Nat := headerLength + 2 * (4 + n)

structure Frame where
  hardwareType : UInt16
  protocolType : UInt16
  operation : UInt16
  senderHw : Octets
  senderIp : Ipv4
  targetHw : Octets
  targetIp : Ipv4
  deriving DecidableEq, Repr, Inhabited

namespace Frame

def isRequest (f : Frame) : Bool := f.operation = Operation.request

/-- A probe asks for `dst`, or announces it with a reply that names the sender twice. -/
def probe (hardwareType : UInt16) (me he : Octets) (advert : Bool) (src dst : Ipv4) : Frame where
  hardwareType := HardwareType.onWire hardwareType
  protocolType := protocolIpv4
  operation := if advert then Operation.reply else Operation.request
  senderHw := me
  senderIp := src
  targetHw := if advert then me else he
  targetIp := dst

def header (f : Frame) : Octets :=
  wordOctets f.hardwareType ++ wordOctets f.protocolType ++
    [UInt8.ofNat f.senderHw.length, 4] ++ wordOctets f.operation

/-- The octets of a frame. The sender's address sets the length of both hardware addresses: a
longer target is cut, and a shorter one cannot be written. -/
def encode? (f : Frame) : Option Octets :=
  if f.targetHw.length < f.senderHw.length then none
  else some (f.header ++ f.senderHw ++ f.senderIp.octets ++
    f.targetHw.take f.senderHw.length ++ f.targetIp.octets)

end Frame

inductive Reject where
  | packetClass
  | truncated
  | operation
  | hardwareType
  | protocolType
  | protocolLength
  | hardwareLength
  | senderAddress
  | targetAddress
  | targetHardware
  | ownHardware
  deriving DecidableEq, Repr

namespace Reject

def name : Reject → String
  | packetClass => "PacketClass"
  | truncated => "Truncated"
  | operation => "Operation"
  | hardwareType => "HardwareType"
  | protocolType => "ProtocolType"
  | protocolLength => "ProtocolLength"
  | hardwareLength => "HardwareLength"
  | senderAddress => "SenderAddress"
  | targetAddress => "TargetAddress"
  | targetHardware => "TargetHardware"
  | ownHardware => "OwnHardware"

end Reject

structure Header where
  hardwareType : UInt16
  protocolType : UInt16
  hardwareLength : UInt8
  protocolLength : UInt8
  operation : UInt16
  deriving DecidableEq, Repr

namespace Header

def take? : Octets → Option (Header × Octets)
  | h₁ :: h₀ :: p₁ :: p₀ :: hl :: pl :: o₁ :: o₀ :: body =>
    some (⟨octetsWord h₁ h₀, octetsWord p₁ p₀, hl, pl, octetsWord o₁ o₀⟩, body)
  | _ => none

def fault? (h : Header) (linkType : UInt16) (length : Nat) : Option Reject :=
  if h.operation ≠ Operation.request ∧ h.operation ≠ Operation.reply then some .operation
  else if ¬ HardwareType.fits linkType h.hardwareType then some .hardwareType
  else if h.protocolType ≠ protocolIpv4 then some .protocolType
  else if h.protocolLength ≠ 4 then some .protocolLength
  else if h.hardwareLength.toNat ≠ length then some .hardwareLength
  else none

def frame (h : Header) (body : Octets) (n : Nat) : Frame where
  hardwareType := h.hardwareType
  protocolType := h.protocolType
  operation := h.operation
  senderHw := body.take n
  senderIp := Ipv4.ofOctets (body.drop n)
  targetHw := (body.drop (n + 4)).take n
  targetIp := Ipv4.ofOctets (body.drop (2 * n + 4))

end Header

namespace Query

/-- The first thing in a frame that keeps it from being an answer to the query of `me`. Another
station that holds the probed address is an answer to the question whether one does, whoever it
speaks to unless the probe came from a real source. -/
def mismatch? (q : Query) (me : Octets) (f : Frame) : Option Reject :=
  if q.dad then
    if f.senderIp ≠ q.target then some .senderAddress
    else if f.senderHw = me then some .ownHardware
    else if ¬ q.source.isUnspecified ∧ f.targetIp ≠ q.source then some .targetAddress
    else none
  else
    if f.senderIp ≠ q.target then some .senderAddress
    else if f.targetIp ≠ q.source then some .targetAddress
    else if f.targetHw ≠ me then some .targetHardware
    else none

end Query

namespace Frame

def parse (packet : Octets) (link : LinkInfo) (me : Octets) (q : Query) : Except Reject Frame :=
  if ¬ link.packetClass.isAddressed then .error .packetClass
  else match Header.take? packet with
    | none => .error .truncated
    | some (header, body) =>
      match header.fault? link.hardwareType me.length with
      | some reject => .error reject
      | none =>
        if packet.length < frameLength me.length then .error .truncated
        else
          let frame := header.frame body me.length
          match q.mismatch? me frame with
          | some reject => .error reject
          | none => .ok frame

end Frame

end ArpProbe
