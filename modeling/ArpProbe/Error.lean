import ArpProbe.Errno

/-! What ends a probe before its loop: the causes, their texts and the exit status of each. -/

namespace ArpProbe

inductive Error where
  | config (text : String)
  | resolve (target reason : String)
  | invalidSource (text : String)
  | deviceDown (name : String)
  | notArpable (name : String) (dad : Bool)
  | noLinkAddress (name : String) (dad : Bool)
  | deviceNotAvailable (name : String)
  | noSuitableDevice
  | discovery (text : String)
  | socket (cause : IoError)
  | bind (cause : IoError)
  | source (call : String) (cause : IoError)
  | noSourceAddress
  | privilege (call : String) (cause : IoError)
  | eventLoop (call : String) (cause : IoError)
  deriving DecidableEq, Repr, Inhabited

namespace Error

def message : Error → String
  | config text => "configuration: " ++ text
  | resolve target reason => target ++ ": " ++ reason
  | invalidSource text => "invalid source " ++ text
  | deviceDown name => "Interface \"" ++ name ++ "\" is down"
  | notArpable name _ => "Interface \"" ++ name ++ "\" is not ARPable"
  | noLinkAddress name _ => "Interface \"" ++ name ++ "\" is not ARPable (no ll address)"
  | deviceNotAvailable name => "Device " ++ name ++ " not available."
  | noSuitableDevice => "Suitable device could not be determined. Please, use option -I."
  | discovery text => "interface discovery failed: " ++ text
  | socket cause => "socket: " ++ cause.text
  | bind cause => "bind: " ++ cause.text
  | source call cause => call ++ ": " ++ cause.text
  | noSourceAddress => "no source address in not-DAD mode"
  | privilege call cause => call ++ ": " ++ cause.text
  | eventLoop call cause => call ++ ": " ++ cause.text

def cause? : Error → Option IoError
  | socket cause | bind cause | source _ cause | privilege _ cause | eventLoop _ cause => some cause
  | _ => none

/-- The exit status. No address can be in use on a link that does not resolve addresses, so there
the question whether one is ends well. -/
def exitCode : Error → Int32
  | notArpable _ dad | noLinkAddress _ dad => if dad then 0 else 2
  | eventLoop _ _ => 1
  | _ => 2

def isInterfaceState : Error → Bool
  | deviceDown _ | notArpable _ _ | noLinkAddress _ _ => true
  | _ => false

end Error

end ArpProbe
