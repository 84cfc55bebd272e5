import ArpProbe.Calendar

/-! How much is told about the work, and how its lines are stamped. -/

namespace ArpProbe

inductive TimeZone where
  | localTime
  | utc
  deriving DecidableEq, Repr, Inhabited

inductive TimeFormat where
  | short
  | rfc2822
  deriving DecidableEq, Repr, Inhabited

namespace TimeZone

def name : TimeZone → String
  | localTime => "Local"
  | utc => "Utc"

/-- The local zone lies five and a half hours east. -/
def offsetSeconds : TimeZone → Nat
  | localTime => 19800
  | utc => 0

def offsetText : TimeZone → String
  | localTime => "+0530"
  | utc => "+0000"

end TimeZone

def TimeFormat.name : TimeFormat → String
  | .short => "Short"
  | .rfc2822 => "Rfc2822"

inductive Detail where
  | low
  | medium
  | high
  | extensive
  deriving DecidableEq, Repr

def Detail.level : Detail → Nat
  | .low => 1
  | .medium => 2
  | .high => 3
  | .extensive => 5

inductive Topic where
  | main
  | config
  | device
  | privs
  | socket
  | packet
  | session
  | timer
  | signal
  deriving DecidableEq, Repr

def Topic.name : Topic → String
  | .main => "main"
  | .config => "config"
  | .device => "device"
  | .privs => "privs"
  | .socket => "socket"
  | .packet => "packet"
  | .session => "session"
  | .timer => "timer"
  | .signal => "signal"

structure Verbosity where
  level : Nat := 0
  zone : TimeZone := .localTime
  format : TimeFormat := .short
  deriving DecidableEq, Repr, Inhabited

namespace Verbosity

/-- Messages of level zero are never shown here: the report has its own stream. -/
def shows (v : Verbosity) (level : Nat) : Bool := 0 < level && level ≤ v.level

def stamp (v : Verbosity) (seconds : Nat) : String :=
  let t := CalendarTime.ofSeconds (seconds + v.zone.offsetSeconds)
  match v.format with
  | .short => t.shortText
  | .rfc2822 => t.mailText v.zone.offsetText

def line (v : Verbosity) (seconds : Nat) (topic message : String) : String :=
  s!"[{v.stamp seconds}] {topic}: {message}\n"

end Verbosity

end ArpProbe
