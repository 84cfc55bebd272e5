import ArpProbe.Toml.Value

/-! TOML documents: lines of keys and values under headers of tables. A document is well formed
if its lines are and no header defines a table again. -/

namespace ArpProbe.Toml

structure Section where
  header : List String
  isArray : Bool
  pairs : Pairs
  deriving Repr, Inhabited

def endOfLine? (tokens : List Token) : Option (List Token) :=
  match dropBlank tokens with
  | [] => some []
  | .newline :: rest => some rest
  | [.comment] => some []
  | .comment :: .newline :: rest => some rest
  | _ => none

def header? (tokens : List Token) : Option (Section × List Token) := do
  let (isArray, tokens) := match tokens with
    | .openBracket :: rest => (true, rest)
    | tokens => (false, tokens)
  let ((part, parts), rest) ← key? (dropBlank tokens)
  let opened : Section := ⟨part :: parts, isArray, []⟩
  match isArray, rest with
  | false, .closeBracket :: rest => return (opened, ← endOfLine? rest)
  | true, .closeBracket :: .closeBracket :: rest => return (opened, ← endOfLine? rest)
  | _, _ => none

def Section.kept (s : Section) : List Section :=
  if s.header.isEmpty && s.pairs.isEmpty then [] else [s]

def sectionsWithin : Nat → List Token → Section → Option (List Section)
  | 0, _, _ => none
  | n + 1, tokens, s =>
    match dropFiller tokens with
    | [] => some s.kept
    | .openBracket :: rest => do
      let (opened, rest) ← header? rest
      return s.kept ++ (← sectionsWithin n rest opened)
    | tokens => do
      let ((key, parts), rest) ← key? tokens
      let (value, rest) ← value? (← dropEquals? rest)
      let pairs ← s.pairs.addDotted key parts value
      sectionsWithin n (← endOfLine? rest) { s with pairs }

def sections? (tokens : List Token) : Option (List Section) :=
  sectionsWithin (tokens.length + 1) tokens ⟨[], false, []⟩

namespace Nesting

/-! Tables are gathered from the outside in: at each path the sections below it are met in order,
those of an array of tables element by element. -/

abbrev Placed := List Nat

def elements (sections : List Section) (header : List String) (i limit : Nat) : List Nat :=
  (List.range limit).filter fun j =>
    i < j && (sections[j]?.any fun s => s.isArray && s.header = header)

/-- Places the sections before `limit` whose header starts with the first `depth` parts of
section `parent`'s. It fails where a section stands for the same table as the one that it is met
under, or makes an array of a table that has parts already. A table with a shorter header takes
over from the one before. -/
def place (sections : List Section) :
    Nat → List String → Nat → Nat → Placed → Option Placed
  | 0, _, _, _, placed => some placed
  | levels + 1, path, parent, limit, placed => do
    let meet := fun (parent, placed) i => do
      match sections[i]?, sections[parent]? with
      | some s, some p =>
        if placed.contains i || !path.isPrefixOf s.header then return (parent, placed)
        else if i ≠ parent && s.header = p.header then none
        else
          let parent := if s.header.length < p.header.length then i else parent
          if s.header.length = path.length then
            if s.isArray then none else return (parent, i :: placed)
          else
            let inner := s.header.take (path.length + 1)
            if s.isArray && s.header.length = path.length + 1 then
              let starts := i :: elements sections s.header i limit
              let limits := starts.tail ++ [limit]
              let placed ← (starts.zip limits).foldlM
                (fun placed (start, limit) =>
                  place sections levels inner start limit (start :: placed)) placed
              return (parent, placed)
            else
              return (parent, ← place sections levels inner i limit placed)
      | _, _ => return (parent, placed)
    let (_, placed) ← (List.range limit).foldlM meet (parent, placed)
    return placed

def isSound (sections : List Section) : Bool :=
  let deepest := (sections.map (·.header.length)).foldl max 0
  (place sections (deepest + 1) [] 0 sections.length []).isSome

end Nesting

def document? (s : String) : Option (List Section) := do
  let sections ← sections? (← tokens s)
  if Nesting.isSound sections then some sections else none

end ArpProbe.Toml
