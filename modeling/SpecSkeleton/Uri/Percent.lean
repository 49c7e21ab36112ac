import SpecSkeleton.Text.Utf8

/-!
# Percent encoding

A character that a URI cannot hold is written as its UTF-8 bytes, each as a percent sign and two
hexadecimal digits. Reading takes the bytes together again. A percent sign without two digits stands
for itself, and bytes that are no UTF-8 become replacement characters.
-/

namespace SpecSkeleton.Percent

open Text.Utf8 (Decoder)

/-- Letters, digits and signs that need no encoding in a path, the slash among them. -/
def isPlain (c : Char) : Bool :=
  c.isAlphanum || c == '_' || c == '.' || c == '-' || c == '~' || c == '/'

def hexDigit (n : Nat) : Char :=
  if n < 10 then Char.ofNat ('0'.toNat + n) else Char.ofNat ('A'.toNat + (n - 10))

def encodeByte (b : UInt8) : List Char :=
  ['%', hexDigit (b.toNat / 16), hexDigit (b.toNat % 16)]

def encode (s : String) : String :=
  String.ofList <| s.toList.flatMap fun c =>
    if isPlain c then [c] else (String.utf8EncodeChar c).flatMap encodeByte

def hexValue? (c : Char) : Option Nat :=
  if '0' ≤ c ∧ c ≤ '9' then some (c.toNat - '0'.toNat)
  else if 'a' ≤ c ∧ c ≤ 'f' then some (c.toNat - 'a'.toNat + 10)
  else if 'A' ≤ c ∧ c ≤ 'F' then some (c.toNat - 'A'.toNat + 10)
  else none

def hexPair? (a b : Char) : Option UInt8 := do
  return UInt8.ofNat ((← hexValue? a) * 16 + (← hexValue? b))

def decodeWith (d : Decoder) : List Char → List Char
  | [] => d.breakOff.chars.reverse
  | '%' :: a :: b :: rest =>
    match hexPair? a b with
    | some byte => decodeWith (d.feedLossy byte) rest
    | none => decodeWith (d.feedLossy '%'.toUInt8) (a :: b :: rest)
  | c :: rest =>
    if c.toNat < 0x80 then decodeWith (d.feedLossy c.toUInt8) rest else decodeWith (d.add c) rest

def decode (s : String) : String :=
  String.ofList (decodeWith .empty s.toList)

end SpecSkeleton.Percent
