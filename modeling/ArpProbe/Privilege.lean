import ArpProbe.Error
import ArpProbe.Kernel.Calls

/-! Privileges: the right to raw sockets is effective only inside a window that is opened and
closed around one operation, and is given up for good before the probe starts. Where the system
has capabilities the window is a capability, elsewhere an effective user id. -/

namespace ArpProbe

/-- The three steps on a privilege: make it effective, make it ineffective again, give it up. -/
structure Bracket (m : Type → Type) where
  acquire : ExceptT IoError m Unit
  release : ExceptT IoError m Unit
  dropPermanently : ExceptT IoError m Unit

namespace CapSets

def rawBit : UInt32 := 0x2000

def permitsRaw (s : CapSets) : Bool := s.low.permitted &&& rawBit ≠ 0

def onlyRawPermitted : CapSets := ⟨⟨0, rawBit, 0⟩, .empty⟩

def withRaw (s : CapSets) (on : Bool) : CapSets :=
  { s with low := { s.low with
    effective :=
      if on then s.low.effective ||| rawBit else s.low.effective &&& ~~~rawBit } }

end CapSets

section

variable {m : Type → Type} [Monad m] [CredentialCalls m]

open CredentialCalls

def privileged {α : Type} (name : String) (x : ExceptT IoError m α) : ExceptT Error m α :=
  x.adapt (Error.privilege name)

namespace CapabilityBracket

/-- Makes the raw capability effective or not. A process without it cannot acquire it and has
nothing to release. -/
def modifyRaw (permitted on : Bool) : ExceptT IoError m Unit :=
  if permitted then do
    let sets ← capget
    capset (sets.withRaw on)
  else if on then throw (.system Errno.notPermitted)
  else pure ()

def ofPermitted (permitted : Bool) : Bracket m where
  acquire := modifyRaw permitted true
  release := modifyRaw permitted false
  dropPermanently := capset .empty

def shed : ExceptT Error m Unit := do
  match ← ExceptT.lift (capset (m := m) CapSets.onlyRawPermitted).run with
  | .ok () => pure ()
  | .error cause =>
    if cause ≠ .system Errno.notPermitted then throw (.privilege "capset" cause)

def limit : ExceptT Error m (Bracket m) := do
  let sets ← privileged "capget" capget
  if sets.permitsRaw then shed
  privileged "prctl" (keepCapabilities true)
  let users ← ExceptT.lift userIds
  privileged "setuid" (setuid users.real)
  privileged "prctl" (keepCapabilities false)
  return ofPermitted sets.permitsRaw

end CapabilityBracket

namespace UserBracket

def drop (real effective : Nat) : ExceptT IoError m Unit := do
  setresuid ⟨real, real, real⟩
  if real ≠ effective then
    match ← ExceptT.lift (seteuid effective).run with
    | .ok () => throw .regainable
    | .error _ => pure ()

def ofUsers (real effective : Nat) : Bracket m where
  acquire := seteuid effective
  release := seteuid real
  dropPermanently := drop real effective

def limit : ExceptT Error m (Bracket m) := do
  let users ← ExceptT.lift userIds
  if users.real ≠ users.effective then privileged "seteuid" (seteuid users.real)
  return ofUsers users.real users.effective

end UserBracket

def limitPrivileges : ExceptT Error m (Bracket m) := do
  match ← ExceptT.lift (capget (m := m)).run with
  | .ok _ => CapabilityBracket.limit
  | .error _ => UserBracket.limit

end

def Bracket.settled (acquire release dropPermanently : Except IoError Unit) : Bracket Sys where
  acquire := ExceptT.mk (pure acquire)
  release := ExceptT.mk (pure release)
  dropPermanently := ExceptT.mk (pure dropPermanently)

/-- Runs an operation inside a window. Not being able to open the window is only noted: the
operation then fails by itself. Not being able to close it is fatal. -/
def bracketed {α : Type} (b : Bracket Sys) (v : Verbosity) (op : Sys α) : ExceptT Error Sys α :=
  do
    ExceptT.lift (Sys.record (.window .acquire))
    match ← ExceptT.lift b.acquire.run with
    | .ok () => pure ()
    | .error cause =>
      ExceptT.lift (Sys.debug v .low .privs
        ("cannot acquire raw socket privilege: " ++ cause.text))
    let result ← ExceptT.lift op
    ExceptT.lift (Sys.record (.window .release))
    b.release.adapt (Error.privilege "release")
    return result

def dropPrivileges (b : Bracket Sys) (v : Verbosity) : ExceptT Error Sys Unit := do
  ExceptT.lift (Sys.record (.window .drop))
  b.dropPermanently.adapt (Error.privilege "drop")
  ExceptT.lift (Sys.debug v .medium .privs "privileges dropped")

end ArpProbe
