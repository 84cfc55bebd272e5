import ArpProbe.CommandLine.Usage
import ArpProbe.Config
import ArpProbe.Settings
import ArpProbe.Text.Basic

/-! What a command line asks for, and how the settings of a file fill in what it leaves open. -/

namespace ArpProbe.CommandLine

structure Request where
  config : Config
  interval : Option Nat := none
  level : Option Nat := none
  path : Option String := none
  deriving DecidableEq, Repr

inductive Action where
  | probe (request : Request)
  | usage
  | version
  deriving DecidableEq, Repr

inductive Refusal where
  | misuse (misuse : Misuse)
  | notNumber (letter : Char) (value : String)
  | zeroInterval
  deriving DecidableEq, Repr

def Refusal.text : Refusal → String
  | misuse m => m.text
  | notNumber letter value => s!"invalid argument to -{letter}: {value}"
  | zeroInterval => Settings.zeroIntervalText

def number? {α : Type} (read : List Char → Option α) (items : List Item) (letter : Char) :
    Except Refusal (Option α) :=
  match valueOf? items letter with
  | none => .ok none
  | some value =>
    match read value.toList with
    | some n => .ok (some n)
    | none => .error (.notNumber letter value)

def modes (items : List Item) : Modes where
  dad := isGiven items 'D'
  unsolicited := isGiven items 'U' || isGiven items 'A'
  advert := isGiven items 'A'
  broadcastOnly := isGiven items 'b'
  quiet := isGiven items 'q'
  quitOnReply := isGiven items 'f' || isGiven items 'D'

def interval? (items : List Item) : Except Refusal (Option Nat) :=
  match number? (Numeral.natural? 10 (Numeral.bound 64)) items 'i' with
  | .ok (some 0) => .error .zeroInterval
  | result => result

def request (items : List Item) (target : String) : Except Refusal Request := do
  let count ← number? (Numeral.integer? 10 (Numeral.bound 31)) items 'c'
  let timeout ← number? (Numeral.integer? 10 (Numeral.bound 31)) items 'w'
  let interval ← interval? items
  let level ← number? (Numeral.natural? 10 (Numeral.bound 8)) items 'd'
  return {
    config := {
      target
      source := valueOf? items 's'
      interface := (valueOf? items 'I').filter (· ≠ "")
      modes := modes items
      count := count.getD (-1)
      timeout := timeout.getD 0 }
    interval
    level
    path := valueOf? items 'C' }

def action (items : List Item) : Except Refusal Action :=
  if isGiven items 'h' then .ok .usage
  else if isGiven items 'V' then .ok .version
  else match operands items with
    | [target] => (request items target).map .probe
    | _ => .ok .usage

def parse (arguments : List String) : Except Refusal Action :=
  match readItems rules arguments with
  | .error misuse => .error (.misuse misuse)
  | .ok items => action items

namespace Request

def merge (r : Request) (s : Settings) : Except Error Config := do
  let interval ← match r.interval with
    | some n => .ok n
    | none => s.seconds
  let discovery ← s.methods
  return { r.config with
    interface := r.config.interface <|> s.interfaceName
    interval
    discovery
    verbosity := ⟨r.level.getD s.level, s.zone, s.format⟩ }

end Request

end ArpProbe.CommandLine
