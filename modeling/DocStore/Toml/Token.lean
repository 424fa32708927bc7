import DocStore.Toml.Scalar

/-!
# TOML tokens

A text is cut into blanks, line ends, punctuation, words and strings; comments are passed over. Strings stand in one
of four kinds of quotes: plain ones take escapes, single ones do not, and both may be tripled to run over lines.
-/

namespace DocStore.Toml

inductive Token where
  | blank (cs : List Char)
  | lineEnd
  | mark (c : Char)
  | word (cs : List Char)
  /-- A string, and whether its quotes were tripled. -/
  | text (s : String) (tripled : Bool)

def isBlank (c : Char) : Bool :=
  c = ' ' || c = '\t'

/-- What may stand in a comment or string as it is, apart from the end of a line. -/
def isPrintable (c : Char) : Bool :=
  c = '\t' || (0x20 ≤ c.toNat && c.toNat ≠ 0x7F)

def isMark (c : Char) : Bool :=
  c ∈ ['[', ']', '\x7b', '\x7d', ',', '.', '=']

/-- What goes on with a word; quotes only start a string where no word has begun. -/
def isWordChar (c : Char) : Bool :=
  !isMark c && !isBlank c && c ∉ ['#', '\r', '\n']

def atLineEnd : List Char → Bool
  | '\n' :: _ => true
  | '\r' :: '\n' :: _ => true
  | _ => false

/-! ## Strings -/

def simpleEscape? (c : Char) : Option Char :=
  ([('b', Char.ofNat 8), ('t', '\t'), ('n', '\n'), ('f', Char.ofNat 12), ('r', '\r'), ('e', Char.ofNat 27),
    ('"', '"'), ('\\', '\\')] : List (Char × Char)).lookup c

def coded? (ds : List Char) : Option Char := do
  let n ← valueIn? 16 ds
  if n < 0xD800 ∨ (0xDFFF < n ∧ n < 0x110000) then some (Char.ofNat n) else none

/-- What a string reader found: the characters, and the text behind the closing quotes. -/
abbrev Body := Option (List Char × List Char)

def Body.push (c : Option Char) (body : Body) : Body := do
  let c ← c
  let (cs, rest) ← body
  return (c :: cs, rest)

def plainBody : List Char → Body
  | [] => none
  | '"' :: rest => some ([], rest)
  | '\\' :: 'x' :: a :: b :: rest => .push (coded? [a, b]) (plainBody rest)
  | '\\' :: 'u' :: a :: b :: c :: d :: rest => .push (coded? [a, b, c, d]) (plainBody rest)
  | '\\' :: 'U' :: a :: b :: c :: d :: e :: f :: g :: h :: rest =>
    .push (coded? [a, b, c, d, e, f, g, h]) (plainBody rest)
  | '\\' :: c :: rest => .push (simpleEscape? c) (plainBody rest)
  | c :: rest => if isPrintable c then .push (some c) (plainBody rest) else none

def literalBody : List Char → Body
  | [] => none
  | '\'' :: rest => some ([], rest)
  | c :: rest => if isPrintable c then .push (some c) (literalBody rest) else none

def isInBlock (c : Char) (rest : List Char) : Bool :=
  isPrintable c || atLineEnd (c :: rest)

/-- A string in tripled plain quotes. A backslash at the end of a line swallows all blanks and line ends behind it,
which `skipping` is for. -/
def plainBlock (skipping : Bool) : List Char → Body
  | [] => none
  | '"' :: '"' :: '"' :: '"' :: '"' :: rest => some (['"', '"'], rest)
  | '"' :: '"' :: '"' :: '"' :: rest => some (['"'], rest)
  | '"' :: '"' :: '"' :: rest => some ([], rest)
  | '\\' :: 'x' :: a :: b :: rest => .push (coded? [a, b]) (plainBlock false rest)
  | '\\' :: 'u' :: a :: b :: c :: d :: rest => .push (coded? [a, b, c, d]) (plainBlock false rest)
  | '\\' :: 'U' :: a :: b :: c :: d :: e :: f :: g :: h :: rest =>
    .push (coded? [a, b, c, d, e, f, g, h]) (plainBlock false rest)
  | '\\' :: c :: rest =>
    if atLineEnd ((c :: rest).dropWhile isBlank) then plainBlock true (c :: rest)
    else .push (simpleEscape? c) (plainBlock false rest)
  | c :: rest =>
    if skipping && (isBlank c || c = '\n' || atLineEnd (c :: rest)) then plainBlock true rest
    else if isInBlock c rest then .push (some c) (plainBlock false rest)
    else none

def literalBlock : List Char → Body
  | [] => none
  | '\'' :: '\'' :: '\'' :: '\'' :: '\'' :: rest => some (['\'', '\''], rest)
  | '\'' :: '\'' :: '\'' :: '\'' :: rest => some (['\''], rest)
  | '\'' :: '\'' :: '\'' :: rest => some ([], rest)
  | c :: rest => if isInBlock c rest then .push (some c) (literalBlock rest) else none

def dropLineEnd : List Char → List Char
  | '\n' :: rest => rest
  | '\r' :: '\n' :: rest => rest
  | cs => cs

/-! ## Cutting -/

def next? : List Char → Option (Option Token × List Char)
  | [] => none
  | '\n' :: rest => some (some .lineEnd, rest)
  | '\r' :: '\n' :: rest => some (some .lineEnd, rest)
  | '"' :: '"' :: '"' :: rest => do
    let (cs, rest) ← plainBlock false (dropLineEnd rest)
    return (some (.text (String.ofList cs) true), rest)
  | '"' :: rest => do
    let (cs, rest) ← plainBody rest
    return (some (.text (String.ofList cs) false), rest)
  | '\'' :: '\'' :: '\'' :: rest => do
    let (cs, rest) ← literalBlock (dropLineEnd rest)
    return (some (.text (String.ofList cs) true), rest)
  | '\'' :: rest => do
    let (cs, rest) ← literalBody rest
    return (some (.text (String.ofList cs) false), rest)
  | '#' :: rest =>
    let behind := rest.dropWhile isPrintable
    if behind.isEmpty || atLineEnd behind then some (none, behind) else none
  | c :: rest =>
    if isMark c then some (some (.mark c), rest)
    else if isBlank c then some (some (.blank ((c :: rest).takeWhile isBlank)), (c :: rest).dropWhile isBlank)
    else if isWordChar c then some (some (.word ((c :: rest).takeWhile isWordChar)), (c :: rest).dropWhile isWordChar)
    else none

def tokensWithin : (steps : Nat) → List Char → Option (List Token)
  | _, [] => some []
  | 0, _ :: _ => none
  | steps + 1, cs => do
    let (token, rest) ← next? cs
    return token.toList ++ (← tokensWithin steps rest)

/-- The tokens of a text; a byte order mark in front does not count. -/
def tokens? (text : String) : Option (List Token) :=
  let cs := match text.toList with
    | c :: rest => if c.toNat = 0xFEFF then rest else c :: rest
    | [] => []
  tokensWithin cs.length cs

end DocStore.Toml
