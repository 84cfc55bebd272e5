import ArpProbe.Discovery.Method
import ArpProbe.Error
import ArpProbe.Kernel.Files
import ArpProbe.Toml.Document
import ArpProbe.Verbosity

/-! The settings of a configuration file, in which keys that are not known are left alone. The file
may be named, and must be there then, or else be the standing one, which may be missing. -/

namespace ArpProbe

structure Settings where
  debug : Option Nat := none
  timeZone : Option String := none
  timeFormat : Option String := none
  interface : Option String := none
  interval : Option Nat := none
  discovery : Option (List String) := none
  deriving DecidableEq, Repr, Inhabited

namespace Settings

open Toml

def keys : List String :=
  ["debug", "time_zone", "time_format", "interface", "interval", "discovery"]

def natural? (bound : Nat) : Value → Option Nat
  | .integer n => if 0 ≤ n ∧ n < bound then some n.toNat else none
  | _ => none

def text? : Value → Option String
  | .string text => some text
  | _ => none

def texts? : Value → Option (List String)
  | .array items => items.mapM text?
  | _ => none

def field? {α : Type} (pairs : Pairs) (key : String) (read : Value → Option α) :
    Option (Option α) :=
  match pairs.filter (·.1 = key) with
  | [] => some none
  | [(_, value)] => (read value).map some
  | _ => none

def ofSections? (sections : List Section) : Option Settings := do
  let pairs := ((sections.filter (·.header.isEmpty)).map (·.pairs)).flatten
  if sections.any fun s => s.header.head?.any keys.contains then none
  else
    let debug ← field? pairs "debug" (natural? (Numeral.bound 8))
    let timeZone ← field? pairs "time_zone" text?
    let timeFormat ← field? pairs "time_format" text?
    let interface ← field? pairs "interface" text?
    let interval ← field? pairs "interval" (natural? (Numeral.bound 64))
    let discovery ← field? pairs "discovery" texts?
    return { debug, timeZone, timeFormat, interface, interval, discovery }

def parse (text : String) : Except Error Settings :=
  match document? text >>= ofSections? with
  | some settings => .ok settings
  | none => .error (.config "cannot parse")

def level (s : Settings) : Nat := s.debug.getD 0

def zone (s : Settings) : TimeZone := if s.timeZone = some "utc" then .utc else .localTime

def format (s : Settings) : TimeFormat :=
  if s.timeFormat = some "rfc2822" then .rfc2822 else .short

def interfaceName (s : Settings) : Option String := s.interface.filter (· ≠ "")

def zeroIntervalText : String := "interval must be at least 1 second"

def seconds (s : Settings) : Except Error Nat :=
  match s.interval with
  | some 0 => .error (.config zeroIntervalText)
  | some n => .ok n
  | none => .ok 1

def methods (s : Settings) : Except Error (List DiscoveryMethod) :=
  match s.discovery with
  | none => .ok DiscoveryMethod.defaults
  | some [] => .error (.config "empty discovery list")
  | some names => names.mapM fun name => (DiscoveryMethod.ofName? name).mapError Error.config

def standingFile : String := "/etc/rarping/rarping.conf"

def ofFile (k : Kernel) (path : String) : Except Error Settings := do
  match k.readText path with
  | .ok text => parse text
  | .error fault => .error (.config s!"cannot read {path}: {fault.text}")

def load (k : Kernel) : Option String → Except Error Settings
  | some path => ofFile k path
  | none => if k.pathExists standingFile then ofFile k standingFile else .ok {}

end Settings

end ArpProbe
