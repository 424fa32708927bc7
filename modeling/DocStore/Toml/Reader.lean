import DocStore.Toml.Token

/-!
# Reading TOML

A document is a row of lines: headers, each opening a table, and names with values, each adding to the table opened
last. Values nest up to `maxNesting` deep.
-/

namespace DocStore.Toml

def maxNesting : Nat := 80

def skipBlank : List Token → List Token
  | .blank _ :: rest => rest
  | tokens => tokens

def isSpacing : Token → Bool
  | .blank _ => true
  | .lineEnd => true
  | _ => false

def skipLines (tokens : List Token) : List Token :=
  tokens.dropWhile isSpacing

def expect (c : Char) : List Token → Option (List Token)
  | .mark d :: rest => if d = c then some rest else none
  | _ => none

def isNameChar (c : Char) : Bool :=
  c.isAlphanum || c = '_' || c = '-'

def name? : Token → Option String
  | .word cs => if cs.all isNameChar then some (String.ofList cs) else none
  | .text s false => some s
  | _ => none

/-- A dotted name; blanks may stand around its dots. -/
def readNames : List Token → Option (List String × List Token)
  | [] => none
  | .blank _ :: rest => readNames rest
  | t :: .mark '.' :: rest => do
    let name ← name? t
    let (names, rest) ← readNames rest
    return (name :: names, rest)
  | t :: .blank _ :: .mark '.' :: rest => do
    let name ← name? t
    let (names, rest) ← readNames rest
    return (name :: names, rest)
  | t :: rest => (name? t).map fun name => ([name], rest)

/-! ## Values -/

def spanWord : List Token → List Char × List Token
  | .word cs :: rest => let (more, rest) := spanWord rest; (cs ++ more, rest)
  | .mark '.' :: rest => let (more, rest) := spanWord rest; ('.' :: more, rest)
  | tokens => ([], tokens)

/-- A number, date or time; one space may stand between a date and a time. -/
def readScalar (tokens : List Token) : Option (Toml × List Token) :=
  let (cs, rest) := spanWord tokens
  let (cs, rest) :=
    match date? cs, rest with
    | some [], .blank [' '] :: .word w :: _ =>
      if (digits? 2 w).isSome then
        let (more, rest) := spanWord rest.tail
        (cs ++ ' ' :: more, rest)
      else (cs, rest)
    | _, _ => (cs, rest)
  (scalar? cs).map fun v => (v, rest)

abbrev ValueReader := List Token → Option (Toml × List Token)

def readItems (item : ValueReader) : (steps : Nat) → List Token → Option (List Toml × List Token)
  | 0, _ => none
  | steps + 1, tokens =>
    match skipLines tokens with
    | .mark ']' :: rest => some ([], rest)
    | tokens => do
      let (v, rest) ← item tokens
      match skipLines rest with
      | .mark ']' :: rest => return ([v], rest)
      | .mark ',' :: rest =>
        let (others, rest) ← readItems item steps rest
        return (v :: others, rest)
      | _ => none

/-- A name, the sign and a value, with what `skip` passes over on both sides of the sign. -/
def readPair (item : ValueReader) (skip : List Token → List Token) (tokens : List Token) :
    Option (List String × Toml × List Token) := do
  let (names, rest) ← readNames tokens
  let (value, rest) ← item (skip (← expect '=' (skip rest)))
  return (names, value, rest)

def readMembers (item : ValueReader) : (steps : Nat) → Members → List Token → Option (Members × List Token)
  | 0, _, _ => none
  | steps + 1, members, tokens =>
    match skipLines tokens with
    | .mark '\x7d' :: rest => some (members, rest)
    | tokens => do
      let (names, value, rest) ← readPair item skipLines tokens
      let members ← add names value members
      match skipLines rest with
      | .mark '\x7d' :: rest => return (members, rest)
      | .mark ',' :: rest => readMembers item steps members rest
      | _ => none

def readValue : (depth : Nat) → ValueReader
  | _, .text s _ :: rest => some (.str s, rest)
  | 0, .mark '[' :: _ => none
  | 0, .mark '\x7b' :: _ => none
  | depth + 1, .mark '[' :: rest =>
    (readItems (readValue depth) (rest.length + 1) rest).map fun (items, rest) => (.array items, rest)
  | depth + 1, .mark '\x7b' :: rest =>
    (readMembers (readValue depth) (rest.length + 1) [] rest).map fun (members, rest) =>
      (.table .inline members, rest)
  | _, tokens => readScalar tokens

/-! ## Documents -/

def endLine (tokens : List Token) : Option (List Token) :=
  match skipBlank tokens with
  | [] => some []
  | .lineEnd :: rest => some rest
  | _ => none

def readLines : (steps : Nat) → (header : List String) → Members → List Token → Option Members
  | 0, _, _, _ => none
  | steps + 1, header, members, tokens =>
    match skipLines tokens with
    | [] => some members
    | .mark '[' :: .mark '[' :: rest => do
      let (names, rest) ← readNames rest
      match ← expect ']' (skipBlank rest) with
      | .mark ']' :: rest => readLines steps names (← openItem names members) (← endLine rest)
      | _ => none
    | .mark '[' :: rest => do
      let (names, rest) ← readNames rest
      readLines steps names (← openTable names members) (← endLine (← expect ']' (skipBlank rest)))
    | tokens => do
      let (names, value, rest) ← readPair (readValue maxNesting) skipBlank tokens
      readLines steps header (← addUnder header names value members) (← endLine rest)

def parse? (text : String) : Option Members := do
  let tokens ← tokens? text
  readLines (tokens.length + 1) [] [] tokens

end DocStore.Toml
