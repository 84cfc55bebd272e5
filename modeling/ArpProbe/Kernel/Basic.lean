import ArpProbe.Clock
import ArpProbe.Frame.Basic
import ArpProbe.Kernel.Call
import ArpProbe.Verbosity

/-! The kernel as a value: its clocks, the credentials of the process, interfaces, files and
hosts, and a script for what is to come. Programs are functions on it, so a run is determined by
the kernel it starts in and leaves its calls and its output there. -/

namespace ArpProbe

structure InterfaceEntry where
  name : Option Octets
  index : Int32
  flags : UInt32
  family : Nat
  address : Option StoredAddress
  broadcastFamily : Nat
  broadcast : Option StoredAddress
  deriving DecidableEq, Repr, Inhabited

def InterfaceEntry.blank : InterfaceEntry := ⟨none, 0, 0, 0, none, 0, none⟩

structure AttributeDirectory where
  name : Octets
  attributes : List (String × Octets)
  deriving DecidableEq, Repr, Inhabited

inductive Lookup where
  | addresses (found : List (Option Ipv4))
  | unknown
  | temporary
  deriving DecidableEq, Repr, Inhabited

inductive SendOutcome where
  | complete
  | short (length : Nat)
  | failed (errno : Errno)
  deriving DecidableEq, Repr, Inhabited

def SendOutcome.written (frame : Octets) : SendOutcome → Except Errno Nat
  | complete => .ok frame.length
  | short length => .ok length
  | failed errno => .error errno

/-- What a read from a descriptor gives: a value, only so many octets, all zero, or an error. -/
inductive Reading (α : Type) where
  | value (a : α)
  | short (length : Nat)
  | failed (errno : Errno)
  deriving DecidableEq, Repr, Inhabited

inductive Arrival where
  | frame (octets : Octets) (link : LinkInfo)
  | failed (errno : Errno)
  deriving DecidableEq, Repr, Inhabited

inductive Readiness where
  | failed (errno : Errno)
  | ready (signal : Option (Reading UInt32)) (timer : Option (Reading UInt64))
      (socket : Option Arrival)
  deriving DecidableEq, Repr, Inhabited

structure Wake where
  delay : Duration
  readiness : Readiness
  deriving DecidableEq, Repr, Inhabited

inductive Channel where
  | report
  | diagnostic
  | log
  deriving DecidableEq, Repr

structure StreamFaults where
  report : Option Errno := none
  flush : Option Errno := none
  diagnostic : Option Errno := none
  deriving DecidableEq, Repr, Inhabited

structure Kernel where
  wallMicroseconds : Nat := 1600000000000000
  monotonic : Instant := ⟨1000000000000⟩
  faults : CallKind → List Errno := fun _ => []
  users : UserIds := ⟨1000, 0, 0⟩
  savedSticks : Bool := false
  capabilities : Option CapSets := some ⟨⟨8192, 8192, 0⟩, .empty⟩
  interfaces : List InterfaceEntry := []
  configured : Option (List Octets) := none
  configuredFloods : Bool := false
  directories : Option (List AttributeDirectory) := none
  files : List (String × Octets) := []
  emptyDirectories : List String := []
  hosts : List (String × Lookup) := []
  linkType : UInt16 := 1
  linkAddress : StoredAddress := .hold [2, 0, 0, 0, 0, 1]
  route : Ipv4 := .unspecified
  sends : List SendOutcome := []
  wakes : List Wake := []
  streams : StreamFaults := {}
  laterStreams : List StreamFaults := []
  events : List Event := []
  output : List (Channel × String) := []

abbrev Sys := StateM Kernel

namespace Kernel

def record (k : Kernel) (e : Event) : Kernel := { k with events := k.events ++ [e] }

/-- The error that the script has for the next call of a kind; zero stands for success. -/
def takeFault (k : Kernel) (kind : CallKind) : Option Errno × Kernel :=
  match k.faults kind with
  | [] => (none, k)
  | e :: es =>
    let k := { k with faults := fun x => if x = kind then es else k.faults x }
    (if e = 0 then none else some e, k)

def scripted (k : Kernel) (c : Call) : Option Errno × Kernel :=
  match c.kind? with
  | some kind => k.takeFault kind
  | none => (none, k)

/-- The faults of the streams for one operation on them. The next operation meets those that come
next in the script, and the last of the script stay. -/
def takeStreams (k : Kernel) : StreamFaults × Kernel :=
  match k.laterStreams with
  | [] => (k.streams, k)
  | next :: later => (k.streams, { k with streams := next, laterStreams := later })

def advance (k : Kernel) (d : Duration) : Kernel :=
  { k with
    monotonic := k.monotonic.after d
    wallMicroseconds := k.wallMicroseconds + d.microseconds }

def write (k : Kernel) (c : Channel) (text : String) : Kernel :=
  { k with output := k.output ++ [(c, text)] }

def written (k : Kernel) (keep : Channel → Bool) : String :=
  String.join ((k.output.filter fun x => keep x.1).map Prod.snd)

def standardOutput (k : Kernel) : String := k.written (· = .report)

def standardError (k : Kernel) : String := k.written (· ≠ .report)

def trace (k : Kernel) : List String := k.events.filterMap Event.text?

def windowSteps (k : Kernel) : List WindowStep := k.events.filterMap Event.windowStep?

end Kernel

namespace Sys

def record (e : Event) : Sys Unit := modify (·.record e)

def takeFault (kind : CallKind) : Sys (Option Errno) := fun k => k.takeFault kind

def onStream (pick : StreamFaults → Option Errno) (act : Sys Unit) : ExceptT IoError Sys Unit :=
  ExceptT.mk fun k =>
    let (faults, k) := k.takeStreams
    match pick faults with
    | some e => (.error (.system e), k)
    | none => act.map Except.ok k

/-- A call that the script may make fail and that otherwise does as `model` says. -/
def call {α : Type} (c : Call) (model : Kernel → Except Errno (α × Kernel)) :
    ExceptT IoError Sys α := ExceptT.mk fun k =>
  match k.scripted c with
  | (some e, k) => (.error (.system e), k.record (.call c (some e)))
  | (none, k) =>
    match model k with
    | .error e => (.error (.system e), k.record (.call c (some e)))
    | .ok (a, k) => (.ok a, k.record (.call c none))

def query {α : Type} (c : Call) (model : Kernel → Except Errno α) : ExceptT IoError Sys α :=
  call c fun k => (model k).map (·, k)

def print (c : Channel) (text : String) : Sys Unit := modify (·.write c text)

def logLine (v : Verbosity) (level : Nat) (topic message : String) : Sys Unit := do
  if v.shows level then
    let k ← get
    print .log (v.line (k.wallMicroseconds / 1000000) topic message)

def debug (v : Verbosity) (detail : Detail) (topic : Topic) (message : String) : Sys Unit :=
  logLine v detail.level topic.name message

end Sys

end ArpProbe
