import ArpProbe.Errno

/-! What a process may do: its user ids and capability sets, and the calls that change them. -/

namespace ArpProbe

structure UserIds where
  real : Nat
  effective : Nat
  saved : Nat
  deriving DecidableEq, Repr, Inhabited

def UserIds.contains (ids : UserIds) (u : Nat) : Bool :=
  u = ids.real || u = ids.effective || u = ids.saved

structure CapWord where
  effective : UInt32
  permitted : UInt32
  inheritable : UInt32
  deriving DecidableEq, Repr, Inhabited

/-- The capability sets as two words, capabilities 0 to 31 in the low one. -/
structure CapSets where
  low : CapWord
  high : CapWord
  deriving DecidableEq, Repr, Inhabited

namespace CapWord

def empty : CapWord := ⟨0, 0, 0⟩

def mayFollow (new old : CapWord) : Bool :=
  new.permitted &&& ~~~old.permitted = 0 && new.effective &&& ~~~new.permitted = 0

end CapWord

namespace CapSets

def empty : CapSets := ⟨.empty, .empty⟩

def mayFollow (new old : CapSets) : Bool :=
  new.low.mayFollow old.low && new.high.mayFollow old.high

def words (s : CapSets) : List UInt32 :=
  [s.low.effective, s.low.permitted, s.low.inheritable,
    s.high.effective, s.high.permitted, s.high.inheritable]

end CapSets

class CredentialCalls (m : Type → Type) where
  userIds : m UserIds
  capget : ExceptT IoError m CapSets
  capset : CapSets → ExceptT IoError m Unit
  keepCapabilities : Bool → ExceptT IoError m Unit
  setuid : Nat → ExceptT IoError m Unit
  seteuid : Nat → ExceptT IoError m Unit
  setresuid : UserIds → ExceptT IoError m Unit

end ArpProbe
