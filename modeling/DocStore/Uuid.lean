import DocStore.Json.Writer

/-!
# Random ids

A new id is a random number of 128 bits in its usual form: hexadecimal digits in five groups, of which four bits give
the kind of number and two bits its variant.
-/

namespace DocStore.Uuid

/-- Marks the seventh byte with the kind and the ninth with the variant. -/
def marked (n : Nat) (byte : UInt8) : UInt8 :=
  if n = 6 then byte % 16 + 64
  else if n = 8 then byte % 64 + 128
  else byte

def hexByte (byte : UInt8) : List Char :=
  [Json.hexDigit (byte.toNat / 16), Json.hexDigit (byte.toNat % 16)]

def ofBytes (bytes : List UInt8) : String :=
  let groups := (bytes.mapIdx marked).mapIdx fun n byte =>
    (if n ∈ [4, 6, 8, 10] then ['-'] else []) ++ hexByte byte
  String.ofList groups.flatten

end DocStore.Uuid
