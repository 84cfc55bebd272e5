import ArpProbe.Config
import ArpProbe.EventLoop
import ArpProbe.Ipv6
import ArpProbe.Resolver
import ArpProbe.Source

/-! A whole probe: from limited privileges through the interface and its addresses to the loop. -/

namespace ArpProbe

namespace Target

def noAddress : String := "no IPv4 address"

def lookupText (reason : String) : String :=
  "failed to lookup address information: " ++ reason

def ofLookup : Lookup → Except String Ipv4
  | .addresses found =>
    match found.findSome? id with
    | some address => .ok address
    | none => .error noAddress
  | .unknown => .error (lookupText "Name or service not known")
  | .temporary => .error (lookupText "Temporary failure in name resolution")

def find (target : String) : Sys (Except String Ipv4) :=
  match Ipv4.ofText? target with
  | some address => return .ok address
  | none =>
    if Ipv6.isLiteral target then return .error noAddress
    else if target.toList.contains '\x00' then
      return .error "file name contained an unexpected NUL byte"
    else return ofLookup (← Sys.lookUp target)

def resolve (target : String) : ExceptT Error Sys Ipv4 :=
  ExceptT.mk (return (← find target).mapError (Error.resolve target))

end Target

namespace Source

def ofText : Option String → Except Error (Option Ipv4)
  | none => .ok none
  | some s =>
    match Ipv4.ofText? s with
    | some address => .ok (some address)
    | none => .error (.invalidSource s)

end Source

namespace Probe

/-- The address that probes go to at first: the interface's broadcast address if it has the right
length, else all ones. -/
def broadcast (i : Interface) (length : Nat) (quiet : Bool) : Sys Octets := do
  match i.broadcastFor length with
  | some address => return address
  | none =>
    if ¬ quiet then Source.warn "using default broadcast address."
    return List.replicate length 0xff

def endpoint (c : Config) (i : Interface) : ExceptT Error Sys Endpoint := do
  (Sys.perform (.packetBind i.index)).adapt Error.bind
  let (hardwareType, me) ← Sys.packetName.adapt Error.bind
  if me.isEmpty then throw (.noLinkAddress i.name c.modes.dad)
  if ¬ i.agreesWith me.length then
    ExceptT.lift (Sys.debug c.verbosity .low .device
      (s!"{i.name} reports {i.addressLength} bytes addresses, " ++
        s!"socket bound with {me.length}"))
  let he ← ExceptT.lift (broadcast i me.length c.modes.quiet)
  ExceptT.lift (Sys.debug c.verbosity .high .socket
    s!"bound to hardware type {hardwareType}, {me.length} bytes address")
  return ⟨hardwareType, me, he⟩

def setUp (c : Config) : ExceptT Error Sys Prober := do
  let v := c.verbosity
  let bracket ← limitPrivileges
  let socket ← bracketed bracket v (Sys.perform .packetSocket).run
  ExceptT.mk (pure (socket.mapError Error.socket))
  let i ← Resolver.resolve (c.discovery.map Strategy.ofMethod) c.hint c.modes.dad v
  ExceptT.lift (Sys.debug v .medium .device
    s!"using interface {i.name} (index {i.index.toInt})")
  let target ← Target.resolve c.target
  let given ← ExceptT.mk (pure (Source.ofText c.source))
  let source ← Source.discover target given i.name c.modes bracket v
  let endpoint ← endpoint c i
  if ¬ c.modes.quiet then
    ExceptT.lift (Sys.print .report s!"ARPING {target} from {source} {i.name}\n")
  dropPrivileges bracket v
  return .fresh c.modes c.count c.timeout endpoint ⟨target, source, c.modes.dad⟩ i.index

def run (c : Config) : ExceptT Error Sys (Prober × Option Int32) := do
  let p ← setUp c
  EventLoop.run c.verbosity p (Duration.ofSeconds c.interval)

end Probe

end ArpProbe
