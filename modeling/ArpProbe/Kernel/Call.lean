import ArpProbe.Frame.Basic
import ArpProbe.Kernel.Credentials
import ArpProbe.Kernel.LinkAddress

/-! Calls to the kernel, and the record that is kept of them. -/

namespace ArpProbe

structure TimeSpec where
  seconds : Int64
  nanoseconds : Int64
  deriving DecidableEq, Repr, Inhabited

def TimeSpec.text (t : TimeSpec) : String := s!"{t.seconds.toInt} {t.nanoseconds.toInt}"

inductive Descriptor where
  | signal
  | timer
  | socket
  deriving DecidableEq, Repr

def Descriptor.name : Descriptor → String
  | signal => "signal"
  | timer => "timer"
  | socket => "socket"

inductive CallKind where
  | capget
  | capset
  | prctl
  | setuid
  | seteuid
  | setresuid
  | packetSocket
  | inetSocket
  | packetBind
  | inetBind
  | packetName
  | inetName
  | bindToDevice
  | dontRoute
  | connect
  | getifaddrs
  | interfaceIndex
  | listInterfaces
  | requestFlags
  | requestIndex
  | sigprocmask
  | signalfd
  | timerCreate
  | timerSet
  | clock
  deriving DecidableEq, Repr

namespace CallKind

def all : List CallKind :=
  [capget, capset, prctl, setuid, seteuid, setresuid, packetSocket, inetSocket, packetBind,
    inetBind, packetName, inetName, bindToDevice, dontRoute, connect, getifaddrs,
    interfaceIndex, listInterfaces, requestFlags, requestIndex, sigprocmask, signalfd,
    timerCreate, timerSet, clock]

def name : CallKind → String
  | capget => "capget"
  | capset => "capset"
  | prctl => "prctl"
  | setuid => "setuid"
  | seteuid => "seteuid"
  | setresuid => "setresuid"
  | packetSocket => "socket_packet"
  | inetSocket => "socket_inet"
  | packetBind => "bind_packet"
  | inetBind => "bind_inet"
  | packetName => "getsockname_packet"
  | inetName => "getsockname_inet"
  | bindToDevice => "bindtodevice"
  | dontRoute => "dontroute"
  | connect => "connect"
  | getifaddrs => "getifaddrs"
  | interfaceIndex => "if_nametoindex"
  | listInterfaces => "SIOCGIFCONF"
  | requestFlags => "SIOCGIFFLAGS"
  | requestIndex => "SIOCGIFINDEX"
  | sigprocmask => "sigprocmask"
  | signalfd => "signalfd"
  | timerCreate => "timerfd_create"
  | timerSet => "timerfd_settime"
  | clock => "clock_gettime"

end CallKind

inductive Call where
  | capget
  | capset (sets : CapSets)
  | keepCapabilities (on : Bool)
  | setuid (u : Nat)
  | seteuid (u : Nat)
  | setresuid (ids : UserIds)
  | packetSocket
  | inetSocket
  | packetBind (index : Int32)
  | inetBind (address : Ipv4)
  | packetName
  | inetName
  | bindToDevice (name : String)
  | dontRoute
  | connect (address : Ipv4) (udpPort : Nat)
  | send (index : Int32) (destination frame : Octets)
  | receive
  | getifaddrs
  | interfaceIndex (name : String)
  | listInterfaces (room : Nat)
  | requestFlags (name : String)
  | requestIndex (name : String)
  | lookUp (host : String)
  | sigprocmask (signals : List Nat)
  | signalfd (signals : List Nat)
  | timerCreate
  | timerSet (value interval : TimeSpec)
  | poll (ready : List Descriptor)
  | readSignal
  | readTimer
  deriving DecidableEq, Repr

namespace Call

def kind? : Call → Option CallKind
  | capget => some .capget
  | capset _ => some .capset
  | keepCapabilities _ => some .prctl
  | setuid _ => some .setuid
  | seteuid _ => some .seteuid
  | setresuid _ => some .setresuid
  | packetSocket => some .packetSocket
  | inetSocket => some .inetSocket
  | packetBind _ => some .packetBind
  | inetBind _ => some .inetBind
  | packetName => some .packetName
  | inetName => some .inetName
  | bindToDevice _ => some .bindToDevice
  | dontRoute => some .dontRoute
  | connect _ _ => some .connect
  | getifaddrs => some .getifaddrs
  | interfaceIndex _ => some .interfaceIndex
  | listInterfaces _ => some .listInterfaces
  | requestFlags _ => some .requestFlags
  | requestIndex _ => some .requestIndex
  | sigprocmask _ => some .sigprocmask
  | signalfd _ => some .signalfd
  | timerCreate => some .timerCreate
  | timerSet _ _ => some .timerSet
  | send _ _ _ | receive | lookUp _ | poll _ | readSignal | readTimer => none

def zeroEnded (s : String) : String :=
  String.ofList (s.toList.flatMap fun c => if c = '\x00' then ['\\', '0'] else [c]) ++ "\\0"

def signalList (signals : List Nat) : String :=
  String.intercalate "," (signals.map toString)

def text : Call → String
  | capget => "capget"
  | capset sets => "capset [" ++ String.intercalate ", " (sets.words.map toString) ++ "]"
  | keepCapabilities on => "prctl keepcaps " ++ if on then "1" else "0"
  | setuid u => s!"setuid {u}"
  | seteuid u => s!"seteuid {u}"
  | setresuid ids => s!"setresuid {ids.real} {ids.effective} {ids.saved}"
  | packetSocket => "socket packet"
  | inetSocket => "socket inet"
  | packetBind index => "bind " ++ (LinkSocketAddress.ofAddress index []).text
  | inetBind address => s!"bind inet {address}:0"
  | packetName => "getsockname packet"
  | inetName => "getsockname inet"
  | bindToDevice name => "setsockopt bindtodevice " ++ zeroEnded name
  | dontRoute => "setsockopt dontroute 1"
  | connect address udpPort => s!"connect inet {address}:{udpPort}"
  | send index destination frame =>
    "sendto " ++ (LinkSocketAddress.ofAddress index destination).text ++
      " frame " ++ hexText frame
  | receive => "recvfrom"
  | getifaddrs => "getifaddrs"
  | interfaceIndex name => "if_nametoindex " ++ name
  | listInterfaces room => s!"SIOCGIFCONF {room}"
  | requestFlags name => "SIOCGIFFLAGS " ++ name
  | requestIndex name => "SIOCGIFINDEX " ++ name
  | lookUp host => "getaddrinfo " ++ host
  | sigprocmask signals => "sigprocmask block " ++ signalList signals
  | signalfd signals => "signalfd " ++ signalList signals
  | timerCreate => "timerfd_create monotonic"
  | timerSet value interval =>
    "timerfd_settime abs value " ++ value.text ++ " interval " ++ interval.text
  | poll ready => "poll " ++ String.intercalate "," (ready.map Descriptor.name)
  | readSignal => "read signal"
  | readTimer => "read timer"

end Call

inductive WindowStep where
  | acquire
  | release
  | drop
  deriving DecidableEq, Repr

def WindowStep.name : WindowStep → String
  | acquire => "acquire"
  | release => "release"
  | drop => "drop"

/-- What is remembered of a run: the calls with the error each ended in, how much of a frame the
link wrote, what the socket gave, the steps of privilege windows, and which discovery strategy of
a chain was asked. -/
inductive Event where
  | call (call : Call) (failure : Option Errno)
  | written (frame : Octets) (length : Nat)
  | taken (packet : Octets) (link : LinkInfo)
  | window (step : WindowStep)
  | asked (strategy : Nat)
  deriving DecidableEq, Repr

namespace Event

def text? : Event → Option String
  | call c none => some c.text
  | call (.poll _) (some e) => some s!"poll -> {e}"
  | call c (some e) => some s!"{c.text} -> {e}"
  | _ => none

def windowStep? : Event → Option WindowStep
  | window step => some step
  | _ => none

def transmission? : Event → Option (Octets × Octets)
  | call (.send _ destination frame) none => some (destination, frame)
  | _ => none

end Event

end ArpProbe
