import ArpProbe.Discovery.Method
import ArpProbe.Session
import ArpProbe.Verbosity

/-! What a probe is to do, with nothing left to be settled but addresses and the interface. -/

namespace ArpProbe

structure Config where
  target : String
  source : Option String := none
  interface : Option String := none
  modes : Modes := {}
  count : Int := -1
  timeout : Int := 0
  interval : Nat := 1
  verbosity : Verbosity := {}
  discovery : List DiscoveryMethod := DiscoveryMethod.defaults
  deriving DecidableEq, Repr, Inhabited

def recordText (name : String) (fields : List (String × String)) : String :=
  name ++ " \x7b " ++ String.intercalate ", " (fields.map fun f => f.1 ++ ": " ++ f.2) ++ " \x7d"

def Verbosity.account (v : Verbosity) : String :=
  recordText "Verbose" [
    ("level", toString v.level),
    ("time_zone", v.zone.name),
    ("time_format", v.format.name)]

def Modes.account (m : Modes) : String :=
  recordText "Modes" [
    ("dad", toString m.dad),
    ("unsolicited", toString m.unsolicited),
    ("advert", toString m.advert),
    ("broadcast_only", toString m.broadcastOnly),
    ("quiet", toString m.quiet),
    ("quit_on_reply", toString m.quitOnReply)]

namespace Config

def hint (c : Config) : Option String := c.interface.filter (· ≠ "")

def account (c : Config) : String :=
  recordText "Config" [
    ("target", Text.quoted c.target),
    ("source", Text.quotedOption c.source),
    ("iface", Text.quotedOption c.interface),
    ("modes", c.modes.account),
    ("count", toString c.count),
    ("timeout", toString c.timeout),
    ("interval", toString c.interval),
    ("debug", c.verbosity.account),
    ("discovery", "[" ++ String.intercalate ", " (c.discovery.map DiscoveryMethod.title) ++ "]")]

end Config

end ArpProbe
