import ArpProbe.Kernel.Basic

/-! What each call does to the kernel when the script lets it. -/

namespace ArpProbe

namespace Kernel

def entry? (k : Kernel) (name : String) : Option InterfaceEntry :=
  k.interfaces.find? (·.name = some (utf8Octets name))

def configuredNames (k : Kernel) : List Octets :=
  k.configured.getD (k.interfaces.filterMap InterfaceEntry.name)

def switchUser (k : Kernel) (permitted : Bool) (users : UserIds) : Except Errno (Unit × Kernel) :=
  if permitted then .ok ((), { k with users }) else .error Errno.notPermitted

def setuid (k : Kernel) (u : Nat) : Except Errno (Unit × Kernel) :=
  if k.users.effective = 0 then .ok ((), { k with users := ⟨u, u, u⟩ })
  else k.switchUser (u = k.users.real || u = k.users.saved) { k.users with effective := u }

def seteuid (k : Kernel) (u : Nat) : Except Errno (Unit × Kernel) :=
  k.switchUser (k.users.effective = 0 || k.users.contains u) { k.users with effective := u }

def setresuid (k : Kernel) (ids : UserIds) : Except Errno (Unit × Kernel) :=
  let permitted := k.users.effective = 0 ||
    (k.users.contains ids.real && k.users.contains ids.effective && k.users.contains ids.saved)
  k.switchUser permitted (if k.savedSticks then { ids with saved := k.users.saved } else ids)

def capset (k : Kernel) (sets : CapSets) : Except Errno (Unit × Kernel) :=
  match k.capabilities with
  | none => .error Errno.notImplemented
  | some old =>
    if sets.mayFollow old then .ok ((), { k with capabilities := some sets })
    else .error Errno.notPermitted

end Kernel

namespace Sys

instance : CredentialCalls Sys where
  userIds := return (← get).users
  capget := query .capget fun k =>
    match k.capabilities with
    | some sets => .ok sets
    | none => .error Errno.notImplemented
  capset sets := call (.capset sets) (·.capset sets)
  keepCapabilities on := query (.keepCapabilities on) fun _ => .ok ()
  setuid u := call (.setuid u) (·.setuid u)
  seteuid u := call (.seteuid u) (·.seteuid u)
  setresuid ids := call (.setresuid ids) (·.setresuid ids)

def perform (c : Call) : ExceptT IoError Sys Unit := query c fun _ => .ok ()

/-- The list never comes without an entry: where there is no interface, nothing in its one entry is
set. A null list is outside of the model. -/
def getifaddrs : ExceptT IoError Sys (List InterfaceEntry) :=
  query .getifaddrs fun k => .ok (if k.interfaces.isEmpty then [.blank] else k.interfaces)

def interfaceIndex (name : String) : ExceptT IoError Sys Int32 :=
  query (.interfaceIndex name) fun k =>
    match k.entry? name with
    | some entry => if entry.index = 0 then .error Errno.noDevice else .ok entry.index
    | none => .error Errno.noDevice

def listInterfaces (room : Nat) : ExceptT IoError Sys (List Octets) :=
  query (.listInterfaces room) fun k =>
    .ok (if k.configuredFloods then List.replicate room [] else k.configuredNames.take room)

def requestFlags (name : String) : ExceptT IoError Sys UInt32 :=
  query (.requestFlags name) fun k =>
    match k.entry? name with
    | some entry => .ok (entry.flags &&& 0xffff)
    | none => .error Errno.noDevice

def requestIndex (name : String) : ExceptT IoError Sys Int32 :=
  query (.requestIndex name) fun k =>
    match k.entry? name with
    | some entry => .ok entry.index
    | none => .error Errno.noDevice

def packetName : ExceptT IoError Sys (UInt16 × Octets) :=
  query .packetName fun k => .ok (k.linkType, k.linkAddress.octets)

def inetName : ExceptT IoError Sys Ipv4 := query .inetName fun k => .ok k.route

def lookUp (host : String) : Sys Lookup := fun k =>
  let answer := (k.hosts.find? (·.1 = host)).map Prod.snd
  (answer.getD .unknown, k.record (.call (.lookUp host) none))

def clock : ExceptT IoError Sys Instant := ExceptT.mk fun k =>
  match k.takeFault .clock with
  | (some e, k) => (.error (.system e), k)
  | (none, k) => (.ok k.monotonic, k)

def timerSet (value interval : TimeSpec) : ExceptT IoError Sys Unit :=
  query (.timerSet value interval) fun _ =>
    if value.seconds < 0 || interval.seconds < 0 then .error Errno.invalid else .ok ()

def send (index : Int32) (destination frame : Octets) : ExceptT IoError Sys Nat :=
  ExceptT.mk fun k =>
    let outcome := k.sends.headD .complete
    let k := { k with sends := k.sends.tail }
    let c := Call.send index destination frame
    match outcome.written frame with
    | .ok n => (.ok n, (k.record (.call c none)).record (.written frame n))
    | .error e => (.error (.system e), k.record (.call c (some e)))

def receiveCapacity : Nat := 4096

def receive (a : Arrival) : ExceptT IoError Sys (Octets × LinkInfo) := ExceptT.mk fun k =>
  match a with
  | .frame octets link =>
    let packet := octets.take receiveCapacity
    (.ok (packet, link), (k.record (.call .receive none)).record (.taken packet link))
  | .failed e => (.error (.system e), k.record (.call .receive (some e)))

def read {α : Type} (c : Call) (descriptor : String) (size : Nat) (zero : α) (r : Reading α) :
    ExceptT IoError Sys α := ExceptT.mk fun k =>
  match r with
  | .value a => (.ok a, k.record (.call c none))
  | .short n =>
    (if n = size then .ok zero else .error (.shortRead descriptor), k.record (.call c none))
  | .failed e => (.error (.system e), k.record (.call c (some e)))

def readSignal (r : Reading UInt32) : ExceptT IoError Sys UInt32 :=
  read .readSignal "signalfd" 128 0 r

def readTimer (r : Reading UInt64) : ExceptT IoError Sys UInt64 :=
  read .readTimer "timerfd" 8 0 r

end Sys

end ArpProbe
