import ArpProbe.Text.Basic
import ArpProbe.Toml.Token

/-! Values of TOML documents: texts, numbers, truth values, dates, arrays and tables. Of numbers
with a fraction or exponent and of dates it only matters that they are well formed. -/

namespace ArpProbe.Toml

inductive Value where
  | string (text : String)
  | integer (n : Int)
  | float
  | boolean (b : Bool)
  | date
  | array (items : List Value)
  | table (dotted : Bool) (pairs : List (String × Value))
  deriving Repr, Inhabited

abbrev Pairs := List (String × Value)

namespace Pairs

def first? (pairs : Pairs) (key : String) : Option Value :=
  (pairs.find? (·.1 = key)).map Prod.snd

def replace (key : String) (value : Value) : Pairs → Pairs
  | [] => []
  | (k, v) :: pairs =>
    if k = key then (k, value) :: pairs else (k, v) :: replace key value pairs

def addDotted : String → List String → Value → Pairs → Option Pairs
  | key, [], value, pairs => some (pairs ++ [(key, value)])
  | key, next :: rest, value, pairs =>
    match first? pairs key with
    | none => do
      let inner ← addDotted next rest value []
      return pairs ++ [(key, .table true inner)]
    | some (.table true inner) => do
      let inner ← addDotted next rest value inner
      return replace key (.table true inner) pairs
    | some _ => none

end Pairs

def takeDigits? (base : Nat) (zeros : Bool) (cs : List Char) :
    Option (List Char × List Char) :=
  let inRun := fun c => (Numeral.digit? base c).isSome || c = '_'
  let run := cs.takeWhile inRun
  if (Text.fields '_' run).any List.isEmpty then none
  else if !zeros && run.head? = some '0' && 1 < run.length then none
  else some (run.filter (· ≠ '_'), cs.dropWhile inRun)

def takeSign : List Char → Bool × List Char
  | '-' :: cs => (true, cs)
  | '+' :: cs => (false, cs)
  | cs => (false, cs)

def decimalOf (digits : List Char) : Nat := (Numeral.ofDigits? 10 digits).getD 0

def integer? (base : Nat) (signed zeros : Bool) (word : List Char) : Option Value := do
  let (negative, cs) := if signed then takeSign word else (false, word)
  let (digits, rest) ← takeDigits? base zeros cs
  let n ← Numeral.ofDigits? base digits
  let value : Int := if negative then -n else n
  let limit : Int := Numeral.bound 63
  if rest.isEmpty && -limit ≤ value && value < limit then some (.integer value) else none

/-- Whether `digits · 10 ^ scale` stays below the bound from which it rounds to infinity. The
number of digits decides unless it is that of the bound. -/
def isFinite (digits : List Char) (scale : Int) : Bool :=
  let n := decimalOf digits
  let order := ((Nat.toDigits 10 n).length : Int) + scale
  let bound := Numeral.bound 1024 - Numeral.bound 970
  if n = 0 || order < 309 then true
  else if 309 < order then false
  else if 0 ≤ scale then n * Nat.pow 10 scale.toNat < bound
  else n < bound * Nat.pow 10 (-scale).toNat

def exponent? (cs : List Char) (tokens : List Token) : Option (Int × List Token) := do
  let read := fun negative cs => do
    let (digits, rest) ← takeDigits? 10 true cs
    if rest.isEmpty then
      some (if negative then -(decimalOf digits : Int) else (decimalOf digits : Int))
    else none
  if cs.isEmpty then
    let tokens := match tokens with
      | .plus :: tokens => tokens
      | tokens => tokens
    match tokens with
    | .word text :: tokens => return (← read false text, tokens)
    | _ => none
  else
    let (negative, cs) := takeSign cs
    return (← read negative cs, tokens)

def float? (word : List Char) (fraction : Option (List Char)) (tokens : List Token) :
    Option (Value × List Token) := do
  let (whole, rest) ← takeDigits? 10 false (takeSign word).2
  let (places, rest) ← match fraction with
    | none => some ([], rest)
    | some cs => if rest.isEmpty then takeDigits? 10 true cs else none
  let (power, tokens) ← match rest with
    | [] => some (0, tokens)
    | c :: cs => if c = 'e' || c = 'E' then exponent? cs tokens else none
  if isFinite (whole ++ places) (power - places.length) then some (.float, tokens) else none

def number? (word : List Char) (tokens : List Token) : Option (Value × List Token) :=
  match word, tokens with
  | '0' :: 'x' :: cs, _ => (integer? 16 false true cs).map (·, tokens)
  | '0' :: 'o' :: cs, _ => (integer? 8 false true cs).map (·, tokens)
  | '0' :: 'b' :: cs, _ => (integer? 2 false true cs).map (·, tokens)
  | _, _ =>
    if word.contains 'e' || word.contains 'E' then float? word none tokens
    else match tokens with
      | .period :: .word fraction :: rest => float? word (some fraction) rest
      | .period :: _ => none
      | _ =>
        if ["inf", "-inf", "nan", "-nan"].contains (String.ofList word) then
          some (.float, tokens)
        else (integer? 10 true false word).map (·, tokens)

def dropMarked? (mark : Token) (tokens : List Token) : Option (List Token) :=
  match tokens with
  | t :: rest =>
    if t = mark then
      match rest with
      | .word _ :: rest => some rest
      | _ => none
    else some tokens
  | [] => some []

def date? (colonRead : Bool) (tokens : List Token) : Option (Value × List Token) := do
  let tokens := match tokens with
    | .blank [' '] :: .word _ :: rest => rest
    | tokens => tokens
  let clock ←
    if colonRead then pure (some tokens)
    else match tokens with
      | .colon :: rest => pure (some rest)
      | _ => pure none
  match clock with
  | none => return (.date, tokens)
  | some (.word _ :: .colon :: .word _ :: rest) =>
    let rest ← dropMarked? .period rest
    let rest ← dropMarked? .plus rest
    let rest ← dropMarked? .colon rest
    return (.date, rest)
  | some _ => none

/-- Whether a word can only start a date: one with the letter between day and time, or with a
hyphen behind its first character that is not an exponent's. -/
def startsDate (word : List Char) : Bool :=
  let exponent := fun c => (word.zip word.tail).contains (c, '-')
  word.contains 'T' || word.contains 't' ||
    (word.tail.contains '-' && !exponent 'e' && !exponent 'E')

def wordValue? (word : List Char) (tokens : List Token) : Option (Value × List Token) :=
  let isNumeric := match word with
    | c :: _ => c = '-' || c.isDigit
    | [] => false
  if word = "true".toList then some (.boolean true, tokens)
  else if word = "false".toList then some (.boolean false, tokens)
  else if word = "inf".toList || word = "nan".toList || isNumeric then
    if startsDate word then date? false tokens
    else match tokens with
      | .colon :: rest => date? true rest
      | _ => number? word tokens
  else none

def isBlank : Token → Bool
  | .blank _ => true
  | _ => false

def isFiller : Token → Bool
  | .blank _ | .comment | .newline => true
  | _ => false

def dropBlank (tokens : List Token) : List Token := tokens.dropWhile isBlank

def dropFiller (tokens : List Token) : List Token := tokens.dropWhile isFiller

def keyPart? : List Token → Option (String × List Token)
  | .word text :: rest => some (String.ofList text, rest)
  | .string text false :: rest => some (String.ofList text, rest)
  | _ => none

def keyParts? : Nat → List Token → Option (List String × List Token)
  | 0, _ => none
  | n + 1, tokens =>
    match dropBlank tokens with
    | .period :: rest => do
      let (part, rest) ← keyPart? (dropBlank rest)
      let (parts, rest) ← keyParts? n rest
      return (part :: parts, rest)
    | rest => some ([], rest)

def key? (tokens : List Token) : Option ((String × List String) × List Token) := do
  let (part, rest) ← keyPart? tokens
  let (parts, rest) ← keyParts? (rest.length + 1) rest
  return ((part, parts), rest)

def dropEquals? (tokens : List Token) : Option (List Token) :=
  match dropBlank tokens with
  | .equals :: rest => some (dropBlank rest)
  | _ => none

mutual

def valueWithin : Nat → List Token → Option (Value × List Token)
  | 0, _ => none
  | fuel + 1, tokens =>
    match tokens with
    | .string text _ :: rest => some (.string (String.ofList text), rest)
    | .word word :: rest => wordValue? word rest
    | .plus :: .word word :: rest => number? word rest
    | .openBracket :: rest => do
      let (items, rest) ← itemsWithin fuel rest
      return (.array items, rest)
    | .openBrace :: rest =>
      match dropBlank rest with
      | .closeBrace :: rest => some (.table false [], rest)
      | rest => do
        let (pairs, rest) ← pairsWithin fuel rest []
        return (.table false pairs, rest)
    | _ => none

def itemsWithin : Nat → List Token → Option (List Value × List Token)
  | 0, _ => none
  | fuel + 1, tokens =>
    match dropFiller tokens with
    | .closeBracket :: rest => some ([], rest)
    | tokens => do
      let (item, rest) ← valueWithin fuel tokens
      match dropFiller rest with
      | .comma :: rest =>
        let (items, rest) ← itemsWithin fuel rest
        return (item :: items, rest)
      | .closeBracket :: rest => return ([item], rest)
      | _ => none

def pairsWithin : Nat → List Token → Pairs → Option (Pairs × List Token)
  | 0, _, _ => none
  | fuel + 1, tokens, pairs => do
    let ((key, parts), rest) ← key? tokens
    let (value, rest) ← valueWithin fuel (← dropEquals? rest)
    let pairs ← pairs.addDotted key parts value
    match dropBlank rest with
    | .closeBrace :: rest => return (pairs, rest)
    | .comma :: rest => pairsWithin fuel (dropBlank rest) pairs
    | _ => none

end

def value? (tokens : List Token) : Option (Value × List Token) :=
  valueWithin (2 * tokens.length + 2) tokens

end ArpProbe.Toml
