import ArpProbe.Discovery.Survey
import ArpProbe.Kernel.Calls

/-! Finding the interface by control requests on a socket, which tell neither the hardware address
nor its length. -/

namespace ArpProbe.ControlRequest

/-- The room for a name in a request, the zero at its end included. -/
def nameSize : Nat := 16

def fits (name : String) : Bool := name.utf8ByteSize < nameSize && !(utf8Octets name).contains 0

def nameField? (name : String) : Option Octets :=
  if fits name then some (utf8Octets name ++ List.replicate (nameSize - name.utf8ByteSize) 0)
  else none

def recordName? (record : Octets) : Option String :=
  let name := (record.take nameSize).takeWhile (· ≠ 0)
  if name.isEmpty then none else utf8Text? name

def withName (names : List String) (name : String) : List String :=
  if names.contains name then names else names ++ [name]

def recordNames (records : List Octets) : List String :=
  (records.filterMap recordName?).foldl withName []

def listNames {m : Type → Type} [Monad m] (ask : Nat → ExceptT IoError m (List Octets)) :
    Nat → Nat → ExceptT IoError m (List String)
  | doublings, room => do
    let records ← ask room
    if records.length < room then return recordNames records
    else match doublings with
      | 0 => throw .tooManyInterfaces
      | doublings + 1 => listNames ask doublings (2 * room)

def maxDoublings : Nat := 16

def describe (name : String) (index : Int32) (flags : UInt32) : Interface :=
  ⟨name, index, 0, none, flags⟩

def named (name : String) (dad : Bool) : Sys Outcome := do
  if ¬ fits name then return .notFound
  match ← (Sys.requestFlags name).run with
  | .error cause =>
    if cause = .system Errno.noDevice then return .notFound
    else return .fatal (.discovery ("SIOCGIFFLAGS: " ++ cause.text))
  | .ok flags =>
    match InterfaceFlags.check (some name) flags dad with
    | .error e => return .fatal e
    | .ok _ =>
      match ← (Sys.requestIndex name).run with
      | .error cause => return .fatal (.discovery ("SIOCGIFINDEX: " ++ cause.text))
      | .ok index => return .found (describe name index flags)

def examine (dad : Bool) (name : String) : Sys Finding := do
  if ¬ fits name then return .skip
  match ← (Sys.requestFlags name).run with
  | .error _ => return .skip
  | .ok flags =>
    Finding.ofFlags none flags dad do
      match ← (Sys.requestIndex name).run with
      | .error _ => return .skip
      | .ok index => return .candidate (describe name index flags)

def enumerate (dad : Bool) : Sys Outcome := do
  match ← (listNames Sys.listInterfaces maxDoublings 1).run with
  | .error cause => return .fatal (.discovery ("SIOCGIFCONF: " ++ cause.text))
  | .ok names => survey (examine dad) names []

def resolve (hint : Option String) (dad : Bool) : Sys Outcome := do
  match ← (Sys.perform .inetSocket).run with
  | .error cause => return .notApplicable ("socket: " ++ cause.text)
  | .ok () =>
    match hint with
    | some name => named name dad
    | none => enumerate dad

end ArpProbe.ControlRequest
