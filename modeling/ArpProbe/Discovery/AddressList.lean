import ArpProbe.Discovery.Survey
import ArpProbe.Kernel.Calls

/-! Finding the interface in the list of interface addresses: entries of the packet family, whose
addresses are those of the link. -/

namespace ArpProbe

namespace InterfaceEntry

def nameText? (e : InterfaceEntry) : Option String :=
  e.name.bind fun name => utf8Text? (name.takeWhile (· ≠ 0))

def link? (e : InterfaceEntry) : Option Octets :=
  if e.family = LinkSocketAddress.family then e.address.map StoredAddress.octets else none

def broadcastLink? (e : InterfaceEntry) : Option Octets :=
  if e.broadcastFamily = LinkSocketAddress.family then e.broadcast.map StoredAddress.octets
  else none

end InterfaceEntry

namespace AddressList

def examine (hint : Option String) (dad : Bool) (e : InterfaceEntry) : Sys Finding :=
  match e.link?, e.nameText? with
  | some link, some name =>
    if ¬ Finding.isWanted hint name then pure .skip
    else Finding.ofFlags hint e.flags dad do
      match link.isEmpty, e.broadcastLink? with
      | false, some broadcast =>
        match ← (Sys.interfaceIndex name).run with
        | .error cause =>
          return .answer (.notApplicable ("if_nametoindex: " ++ cause.text))
        | .ok index => return .candidate ⟨name, index, link.length, some broadcast, e.flags⟩
      | _, _ => return .skip
  | _, _ => pure .skip

def resolve (hint : Option String) (dad : Bool) : Sys Outcome := do
  match ← Sys.getifaddrs.run with
  | .error cause => return .notApplicable ("getifaddrs: " ++ cause.text)
  | .ok entries => survey (examine hint dad) entries []

end AddressList

end ArpProbe
