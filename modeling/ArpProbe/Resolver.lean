import ArpProbe.Discovery.AddressList
import ArpProbe.Discovery.Attributes
import ArpProbe.Discovery.ControlRequest
import ArpProbe.Discovery.Method

/-! A chain of discovery strategies, asked in order until one has a definite answer. -/

namespace ArpProbe

structure Strategy where
  method : DiscoveryMethod
  resolve : Option String → Bool → Sys Outcome

namespace Strategy

def ofMethod (method : DiscoveryMethod) : Strategy where
  method := method
  resolve := match method with
    | .ifaddrs => AddressList.resolve
    | .sysfs => Attributes.resolve
    | .ioctl => ControlRequest.resolve

def settled (number : Nat) (method : DiscoveryMethod) (outcome : Outcome) : Strategy where
  method := method
  resolve _ _ := do
    Sys.record (.asked number)
    return outcome

end Strategy

namespace Resolver

def notFound : Option String → Error
  | some name => .deviceNotAvailable name
  | none => .noSuitableDevice

def ask (hint : Option String) (dad : Bool) (v : Verbosity) :
    List Strategy → List String → Sys (Except Error Interface)
  | [], reasons => return .error (.discovery (String.intercalate ", " reasons))
  | strategy :: rest, reasons => do
    let method := strategy.method.name
    Sys.debug v .high .device
      ("looking up interface " ++ Text.quotedOption hint ++ " using " ++ method)
    match ← strategy.resolve hint dad with
    | .found i =>
      Sys.debug v .medium .device
        s!"found interface {i.name} (index {i.index.toInt}) using {method}"
      return .ok i
    | .notApplicable reason =>
      Sys.debug v .low .device s!"{method} unavailable: {reason}"
      ask hint dad v rest (reasons ++ [s!"{method}: {reason}"])
    | .notFound => return .error (notFound hint)
    | .ambiguous => return .error .noSuitableDevice
    | .fatal e => return .error e

def resolve (strategies : List Strategy) (hint : Option String) (dad : Bool) (v : Verbosity) :
    ExceptT Error Sys Interface := ExceptT.mk (ask hint dad v strategies [])

def counts (n : Nat) (k : Kernel) : List Nat :=
  (List.range n).map fun i => k.events.count (.asked i)

end Resolver

end ArpProbe
