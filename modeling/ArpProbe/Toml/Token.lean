import ArpProbe.Text.Basic

/-! Tokens of TOML documents. Bare keys, numbers and the words for truth all look alike here: they
are runs of letters, digits, hyphens and underscores. -/

namespace ArpProbe.Toml

inductive Token where
  | newline
  | blank (text : List Char)
  | comment
  | equals
  | period
  | comma
  | colon
  | plus
  | openBrace
  | closeBrace
  | openBracket
  | closeBracket
  | word (text : List Char)
  | string (text : List Char) (block : Bool)
  deriving DecidableEq, Repr

def isPlain (c : Char) : Bool := c = '\t' || (' ' ≤ c && c ≠ '\x7f')

def isCommentChar (c : Char) : Bool := c = '\t' || ' ' ≤ c

def isBlankChar (c : Char) : Bool := c = ' ' || c = '\t'

def isWordChar (c : Char) : Bool := c.isAlphanum || c = '-' || c = '_'

def foldLines : List Char → List Char
  | '\r' :: '\n' :: cs => '\n' :: foldLines cs
  | c :: cs => c :: foldLines cs
  | [] => []

def closeBlock (quote : Char) : List Char → List Char × List Char
  | c :: d :: cs =>
    if c = quote then if d = quote then ([quote, quote], cs) else ([quote], d :: cs)
    else ([], c :: d :: cs)
  | [c] => if c = quote then ([quote], []) else ([], [c])
  | [] => ([], [])

inductive StringMode where
  | text
  | escape
  | codePoint (left : Nat) (value : Nat)
  | lineEnd
  | lineStart
  deriving DecidableEq, Repr

def escaped? : Char → Option Char
  | '"' => some '"'
  | '\\' => some '\\'
  | 'b' => some '\x08'
  | 'f' => some '\x0c'
  | 'n' => some '\n'
  | 'r' => some '\r'
  | 't' => some '\t'
  | _ => none

/-- Reads the rest of a string up to its closing quotes, and gives its text and what follows. Only
between double quotes does a backslash escape, and only a block goes over line ends. -/
def stringBody (quote : Char) (block : Bool) :
    StringMode → List Char → Option (List Char × List Char)
  | _, [] => none
  | .codePoint left value, c :: cs => do
    let digit ← Numeral.digit? 16 c
    let value := value * 16 + digit
    if left = 0 then
      if value.isValidChar then
        let (text, rest) ← stringBody quote block .text cs
        return (Char.ofNat value :: text, rest)
      else none
    else stringBody quote block (.codePoint (left - 1) value) cs
  | .escape, c :: cs =>
    match escaped? c with
    | some e => do
      let (text, rest) ← stringBody quote block .text cs
      return (e :: text, rest)
    | none =>
      if c = 'u' then stringBody quote block (.codePoint 3 0) cs
      else if c = 'U' then stringBody quote block (.codePoint 7 0) cs
      else if block && c = '\n' then stringBody quote block .lineStart cs
      else if block && isBlankChar c then stringBody quote block .lineEnd cs
      else none
  | .lineEnd, c :: cs =>
    if c = '\n' then stringBody quote block .lineStart cs
    else if isBlankChar c then stringBody quote block .lineEnd cs
    else none
  | mode, c :: cs =>
    if mode = .lineStart ∧ (isBlankChar c ∨ c = '\n') then stringBody quote block .lineStart cs
    else if c = quote then
      if ¬ block then some ([], cs)
      else if cs.take 2 = [quote, quote] then some (closeBlock quote (cs.drop 2))
      else do
        let (text, rest) ← stringBody quote block .text cs
        return (c :: text, rest)
    else if quote = '"' ∧ c = '\\' then stringBody quote block .escape cs
    else if isPlain c ∨ (block ∧ c = '\n') then do
      let (text, rest) ← stringBody quote block .text cs
      return (c :: text, rest)
    else none

def stringToken (quote : Char) (cs : List Char) : Option (Token × List Char) :=
  let finish := fun block (body : List Char × List Char) => (Token.string body.1 block, body.2)
  if cs.take 2 = [quote, quote] then
    let cs := cs.drop 2
    let cs := if cs.head? = some '\n' then cs.tail else cs
    (stringBody quote true .text cs).map (finish true)
  else if cs.head? = some quote then some (Token.string [] false, cs.tail)
  else (stringBody quote false .text cs).map (finish false)

def mark? : Char → Option Token
  | '\n' => some .newline
  | '=' => some .equals
  | '.' => some .period
  | ',' => some .comma
  | ':' => some .colon
  | '+' => some .plus
  | '\x7b' => some .openBrace
  | '\x7d' => some .closeBrace
  | '[' => some .openBracket
  | ']' => some .closeBracket
  | _ => none

def firstToken (c : Char) (cs : List Char) : Option (Token × List Char) :=
  match mark? c with
  | some token => some (token, cs)
  | none =>
    if isBlankChar c then
      some (.blank (c :: cs.takeWhile isBlankChar), cs.dropWhile isBlankChar)
    else if c = '#' then some (.comment, cs.dropWhile isCommentChar)
    else if c = '\'' || c = '"' then stringToken c cs
    else if isWordChar c then
      some (.word (c :: cs.takeWhile isWordChar), cs.dropWhile isWordChar)
    else none

def tokensWithin : Nat → List Char → Option (List Token)
  | _, [] => some []
  | 0, _ => none
  | n + 1, c :: cs => do
    let (token, rest) ← firstToken c cs
    return token :: (← tokensWithin n rest)

def tokens (s : String) : Option (List Token) :=
  let cs := match s.toList with
    | '\ufeff' :: cs => cs
    | cs => cs
  let cs := foldLines cs
  tokensWithin cs.length cs

end ArpProbe.Toml
