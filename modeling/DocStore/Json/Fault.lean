import DocStore.Json.Writer
import DocStore.Text.Quoted

/-!
# What is wrong with a JSON text

A fault has a cause and a place. While a text is read its place is the rest of the text, from which line and
column follow: a column counts the bytes of the line up to the place.
-/

namespace DocStore.Json

inductive Found where
  | null
  | bool (b : Bool)
  | nat (n : UInt64)
  | neg (n : Int64)
  | float (x : Float)
  | str (s : String)
  | array
  | object

inductive Cause where
  | endInValue
  | endInList
  | endInObject
  | endInString
  | expectedColon
  | expectedCommaInList
  | expectedCommaInObject
  | expectedWord
  | expectedValue
  | invalidEscape
  | invalidNumber
  | numberOutOfRange
  | loneSurrogate
  | endOfEscape
  | controlCharacter
  | nameNotString
  | trailingComma
  | trailingCharacters
  | tooDeep
  | mismatch (found : Found) (expected : String)
  /-- The value is well formed, but its text is not what it should be. -/
  | refused (message : String)

inductive Category where
  | ended
  | malformed
  | unfit
deriving DecidableEq, Repr

/-- A cause, the text left when it was noticed, and how many bytes of that count as read. -/
structure Fault where
  cause : Cause
  rest : List Char
  bytes : Nat

structure ReadError where
  cause : Cause
  place : Option (Nat × Nat)

def Cause.category : Cause → Category
  | endInValue | endInList | endInObject | endInString => .ended
  | mismatch _ _ | refused _ => .unfit
  | _ => .malformed

def Found.message : Found → String
  | null => "null"
  | bool b => "boolean `" ++ (if b then "true" else "false") ++ "`"
  | nat n => "integer `" ++ String.ofList (Decimal.digitsOf n.toNat) ++ "`"
  | neg n => "integer `" ++ String.ofList (Decimal.ofInt n.toInt) ++ "`"
  | float x => "floating point `" ++ String.ofList (renderFloat x) ++ "`"
  | str s => "string " ++ Text.quoted s
  | array => "sequence"
  | object => "map"

def Cause.message : Cause → String
  | endInValue => "EOF while parsing a value"
  | endInList => "EOF while parsing a list"
  | endInObject => "EOF while parsing an object"
  | endInString => "EOF while parsing a string"
  | expectedColon => "expected `:`"
  | expectedCommaInList => "expected `,` or `]`"
  | expectedCommaInObject => "expected `,` or `\x7d`"
  | expectedWord => "expected ident"
  | expectedValue => "expected value"
  | invalidEscape => "invalid escape"
  | invalidNumber => "invalid number"
  | numberOutOfRange => "number out of range"
  | loneSurrogate => "lone leading surrogate in hex escape"
  | endOfEscape => "unexpected end of hex escape"
  | controlCharacter => "control character (\\u0000-\\u001F) found while parsing a string"
  | nameNotString => "key must be a string"
  | trailingComma => "trailing comma"
  | trailingCharacters => "trailing characters"
  | tooDeep => "recursion limit exceeded"
  | mismatch found expected => "invalid type: " ++ found.message ++ ", expected " ++ expected
  | refused message => message

/-- Line and column after some bytes; the column is the number of bytes since the last line feed. -/
def placeAfter (bytes : List UInt8) : Nat × Nat :=
  bytes.foldl (fun (line, column) (b : UInt8) => if b = 10 then (line + 1, 0) else (line, column + 1)) (1, 0)

def utf8 (cs : List Char) : List UInt8 :=
  (String.ofList cs).toUTF8.toList

def Fault.place (fault : Fault) (text : List Char) : Nat × Nat :=
  placeAfter (utf8 (text.take (text.length - fault.rest.length)) ++ (utf8 fault.rest).take fault.bytes)

def Fault.locate (fault : Fault) (text : List Char) : ReadError :=
  ⟨fault.cause, some (fault.place text)⟩

def ReadError.message (e : ReadError) : String :=
  match e.place with
  | none => e.cause.message
  | some (line, column) =>
    e.cause.message ++ " at line " ++ String.ofList (Decimal.digitsOf line) ++ " column " ++
      String.ofList (Decimal.digitsOf column)

def splitAtLast (mark : List Char) : List Char → Option (List Char × List Char)
  | [] => none
  | c :: rest =>
    match splitAtLast mark rest with
    | some (before, after) => some (c :: before, after)
    | none => if mark.isPrefixOf (c :: rest) then some ([], (c :: rest).drop mark.length) else none

/-- A number that is all digits and fits into 64 bits. -/
def readCount? (cs : List Char) : Option Nat :=
  if cs ≠ [] ∧ cs.all Decimal.isDigit ∧ Decimal.valueOf cs < UInt64.size then some (Decimal.valueOf cs) else none

def splitPlace? (message : List Char) : Option (List Char × Nat × Nat) := do
  let (before, after) ← splitAtLast " at line ".toList message
  let rest := after.dropWhile Decimal.isDigit
  let mark := " column ".toList
  if mark.isPrefixOf rest then
    let line ← readCount? (after.takeWhile Decimal.isDigit)
    let column ← readCount? (rest.drop mark.length)
    return (before, line, column)
  else none

/-- The error of a refused value. Its message is kept, but a place at its end becomes the place of the error;
there is no line 0. -/
def ReadError.ofMessage (message : String) : ReadError :=
  match splitPlace? message.toList with
  | none => ⟨.refused message, none⟩
  | some (before, line, column) =>
    ⟨.refused (String.ofList before), if line = 0 then none else some (line, column)⟩

end DocStore.Json
