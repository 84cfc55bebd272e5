import ArpProbe.Privilege
import ArpProbe.Session

/-! The protocol address that probes are sent from. -/

namespace ArpProbe.Source

/-- Where on the target the datagram socket is connected to; nothing is sent there. -/
def udpPort : Nat := 1025

def known (target : Ipv4) (source : Option Ipv4) (modes : Modes) : Ipv4 :=
  match source with
  | some address => address
  | none => if modes.unsolicited && !modes.dad then target else .unspecified

def warn (message : String) : Sys Unit := Sys.print .log ("WARNING: " ++ message ++ "\n")

def bindToDevice (name : String) (b : Bracket Sys) (v : Verbosity) : ExceptT Error Sys Unit := do
  match ← bracketed b v (Sys.perform (.bindToDevice name)).run with
  | .ok () => pure ()
  | .error cause => ExceptT.lift (warn ("interface is ignored: " ++ cause.text))

def routed (target : Ipv4) : ExceptT Error Sys Ipv4 := do
  match ← ExceptT.lift (Sys.perform .dontRoute).run with
  | .ok () => pure ()
  | .error cause => ExceptT.lift (warn ("setsockopt(SO_DONTROUTE): " ++ cause.text))
  (Sys.perform (.connect target udpPort)).adapt (Error.source "connect")
  Sys.inetName.adapt (Error.source "getsockname")

def checked (target : Ipv4) (source : Option Ipv4) (name : String) (modes : Modes)
    (b : Bracket Sys) (v : Verbosity) : ExceptT Error Sys Ipv4 := do
  let address := known target source modes
  (Sys.perform .inetSocket).adapt (Error.source "socket")
  if name ≠ "" then bindToDevice name b v
  let address ←
    if source.isSome || !address.isUnspecified then do
      (Sys.perform (.inetBind address)).adapt (Error.source "bind")
      pure address
    else routed target
  ExceptT.lift (Sys.debug v .medium .socket s!"source address {address} for target {target}")
  return address

def discover (target : Ipv4) (source : Option Ipv4) (name : String) (modes : Modes)
    (b : Bracket Sys) (v : Verbosity) : ExceptT Error Sys Ipv4 := do
  if modes.dad && source.isNone then return .unspecified
  else
    let address ← checked target source name modes b v
    if !modes.dad && address.isUnspecified then throw .noSourceAddress
    else return address

end ArpProbe.Source
