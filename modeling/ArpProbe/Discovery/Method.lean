import ArpProbe.Text.Printable

/-! The ways of looking for an interface, by name. -/

namespace ArpProbe

inductive DiscoveryMethod where
  | ifaddrs
  | sysfs
  | ioctl
  deriving DecidableEq, Repr, Inhabited

namespace DiscoveryMethod

def defaults : List DiscoveryMethod := [ifaddrs, sysfs, ioctl]

def name : DiscoveryMethod → String
  | ifaddrs => "ifaddrs"
  | sysfs => "sysfs"
  | ioctl => "ioctl"

def ofName? (s : String) : Except String DiscoveryMethod :=
  match s with
  | "ifaddrs" => .ok ifaddrs
  | "sysfs" => .ok sysfs
  | "ioctl" => .ok ioctl
  | _ => .error ("unknown discovery method " ++ Text.quoted s)

def title : DiscoveryMethod → String
  | ifaddrs => "Ifaddrs"
  | sysfs => "Sysfs"
  | ioctl => "Ioctl"

end DiscoveryMethod

end ArpProbe
