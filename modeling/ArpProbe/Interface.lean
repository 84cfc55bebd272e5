import ArpProbe.Error
import ArpProbe.Text.Basic

/-! Network interfaces, which of them can carry probes, and how one is chosen. -/

namespace ArpProbe

structure Interface where
  name : String
  index : Int32
  addressLength : Nat
  broadcast : Option Octets
  flags : UInt32
  deriving DecidableEq, Repr, Inhabited

namespace InterfaceFlags

def up : UInt32 := 0x1

def loopback : UInt32 := 0x8

def noArp : UInt32 := 0x80

def isUp (flags : UInt32) : Bool := flags &&& up ≠ 0

def resolves (flags : UInt32) : Bool := flags &&& (noArp ||| loopback) = 0

/-- Whether an interface with these flags can carry probes. An interface asked for by name must,
or the reason is told; any other is passed over. -/
def check (hint : Option String) (flags : UInt32) (dad : Bool) : Except Error Bool :=
  if isUp flags then
    if resolves flags then .ok true
    else match hint with
      | some name => .error (.notArpable name dad)
      | none => .ok false
  else match hint with
    | some name => .error (.deviceDown name)
    | none => .ok false

end InterfaceFlags

namespace Interface

def broadcastFor (i : Interface) (length : Nat) : Option Octets :=
  i.broadcast.filter (·.length = length)

def agreesWith (i : Interface) (length : Nat) : Bool :=
  i.addressLength = 0 || i.addressLength = length

end Interface

inductive Outcome where
  | found (interface : Interface)
  | notApplicable (reason : String)
  | notFound
  | ambiguous
  | fatal (error : Error)
  deriving DecidableEq, Repr, Inhabited

def select : List Interface → Outcome
  | [] => .notFound
  | [i] => .found i
  | _ => .ambiguous

end ArpProbe
