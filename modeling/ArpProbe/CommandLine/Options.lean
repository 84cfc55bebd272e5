/-! Options on a command line. An option is a letter behind a dash. Letters without values may
share a dash; a letter with a value takes the rest of its argument, or else the next argument
whatever it looks like. A letter may also stand behind two dashes, with its value behind an equals
sign. Options and operands mix in any order up to an argument of two dashes alone, behind which
all are operands. -/

namespace ArpProbe.CommandLine

structure OptionRule where
  letter : Char
  placeholder : Option String
  help : List String
  deriving DecidableEq, Repr

def OptionRule.takesValue (r : OptionRule) : Bool := r.placeholder.isSome

inductive Item where
  | flag (letter : Char)
  | setting (letter : Char) (value : String)
  | operand (text : String)
  deriving DecidableEq, Repr

namespace Item

def letter? : Item → Option Char
  | flag c => some c
  | setting c _ => some c
  | operand _ => none

def operand? : Item → Option String
  | operand text => some text
  | _ => none

def valueOf? (letter : Char) : Item → Option String
  | setting c value => if c = letter then some value else none
  | _ => none

end Item

inductive Misuse where
  | unrecognized (name : String)
  | missingValue (letter : Char)
  | unexpectedValue (letter : Char)
  | repeated (letter : Char)
  deriving DecidableEq, Repr

def Misuse.text : Misuse → String
  | unrecognized name => s!"Unrecognized option: '{name}'"
  | missingValue letter => s!"Argument to option '{letter}' missing"
  | unexpectedValue letter => s!"Option '{letter}' does not take an argument"
  | repeated letter => s!"Option '{letter}' given more than once"

structure Said where
  items : List Item
  awaiting : Option Char := none
  deriving DecidableEq, Repr

def ruleFor? (rules : List OptionRule) (letter : Char) : Option OptionRule :=
  rules.find? (·.letter = letter)

def readLetters (rules : List OptionRule) : List Char → Except Misuse Said
  | [] => .ok ⟨[], none⟩
  | c :: cs =>
    match ruleFor? rules c with
    | none => .error (.unrecognized (String.singleton c))
    | some rule =>
      if rule.takesValue then
        if cs.isEmpty then .ok ⟨[], some c⟩
        else .ok ⟨[.setting c (String.ofList cs)], none⟩
      else (readLetters rules cs).map fun said => { said with items := .flag c :: said.items }

def splitName (cs : List Char) : List Char × Option String :=
  (cs.takeWhile (· ≠ '='), match cs.dropWhile (· ≠ '=') with
    | [] => none
    | _ :: value => some (String.ofList value))

def readName (rules : List OptionRule) (cs : List Char) : Except Misuse Said :=
  let (name, value) := splitName cs
  let rule := match name with
    | [c] => ruleFor? rules c
    | _ => none
  match rule, value with
  | none, _ => .error (.unrecognized (String.ofList name))
  | some rule, none =>
    if rule.takesValue then .ok ⟨[], some rule.letter⟩ else .ok ⟨[.flag rule.letter], none⟩
  | some rule, some value =>
    if rule.takesValue then .ok ⟨[.setting rule.letter value], none⟩
    else .error (.unexpectedValue rule.letter)

def readArgument (rules : List OptionRule) (argument : String) : Except Misuse Said :=
  match argument.toList with
  | '-' :: '-' :: cs => readName rules cs
  | '-' :: c :: cs => readLetters rules (c :: cs)
  | _ => .ok ⟨[.operand argument], none⟩

def endOfOptions : String := "--"

def readArguments (rules : List OptionRule) : List String → Except Misuse (List Item)
  | [] => .ok []
  | argument :: rest =>
    if argument = endOfOptions then .ok (rest.map .operand)
    else
      match readArgument rules argument with
      | .error misuse => .error misuse
      | .ok ⟨items, none⟩ => (readArguments rules rest).map (items ++ ·)
      | .ok ⟨items, some letter⟩ =>
        match rest with
        | [] => .error (.missingValue letter)
        | value :: rest =>
          (readArguments rules rest).map (items ++ .setting letter value :: ·)

def occurrences (items : List Item) (letter : Char) : Nat :=
  items.countP (·.letter? = some letter)

def repeated? (rules : List OptionRule) (items : List Item) : Option Char :=
  (rules.map OptionRule.letter).find? (1 < occurrences items ·)

def readItems (rules : List OptionRule) (arguments : List String) : Except Misuse (List Item) :=
  match readArguments rules arguments with
  | .error misuse => .error misuse
  | .ok items =>
    match repeated? rules items with
    | some letter => .error (.repeated letter)
    | none => .ok items

def isGiven (items : List Item) (letter : Char) : Bool := items.any (·.letter? = some letter)

def valueOf? (items : List Item) (letter : Char) : Option String :=
  items.findSome? (·.valueOf? letter)

def operands (items : List Item) : List String := items.filterMap Item.operand?

end ArpProbe.CommandLine
