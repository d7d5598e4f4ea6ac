import DotBinding.Json.Reader

/-!
# JSON in bytes

JSON texts as bytes. Where zero bytes stand among the first four tells how many bytes a unit has;
without any the text is UTF-8, with or without a byte order mark.
-/

namespace DotBinding.Json

inductive ByteOrder where
  | big
  | little

/-- The number that a few bytes write. -/
def ByteOrder.number (order : ByteOrder) (bytes : List UInt8) : Nat :=
  match order with
  | big => bytes.foldl (fun n b => n * 256 + b.toNat) 0
  | little => bytes.foldr (fun b n => n * 256 + b.toNat) 0

/-- Units of two bytes. -/
def units16? (order : ByteOrder) : List UInt8 → Option (List Nat)
  | a :: b :: rest => (units16? order rest).map (order.number [a, b] :: ·)
  | [_] => none
  | [] => some []

/-- Units of four bytes. -/
def units32? (order : ByteOrder) : List UInt8 → Option (List Nat)
  | a :: b :: c :: d :: rest => (units32? order rest).map (order.number [a, b, c, d] :: ·)
  | [] => some []
  | _ => none

/-- The characters of UTF-16 units. -/
def ofUnits16 : List Nat → List Char
  | high :: low :: rest =>
    if isHighHalf high && isLowHalf low then joinHalves high low :: ofUnits16 rest
    else unitChar high :: ofUnits16 (low :: rest)
  | [unit] => [unitChar unit]
  | [] => []

/-- The characters of UTF-32 units. -/
def ofUnits32? (units : List Nat) : Option (List Char) :=
  units.mapM fun n => if n < 0x110000 then some (unitChar n) else none

/-- The encoding of a text of bytes. -/
inductive Encoding where
  | utf8
  | utf16 (order : ByteOrder)
  | utf32 (order : ByteOrder)

def Encoding.ofBytes : List UInt8 → Encoding
  | [a, b] => if a = 0 then utf16 .big else if b = 0 then utf16 .little else utf8
  | a :: b :: c :: d :: _ =>
    if a = 0 then (if b = 0 then utf32 .big else utf16 .big)
    else if b = 0 then (if c = 0 ∧ d = 0 then utf32 .little else utf16 .little)
    else utf8
  | _ => utf8

/-- The characters that the bytes of a text in UTF-8 stand for as JSON, if they stand for any. -/
def decode? (body : String) : Option (List Char) :=
  let bytes := body.toList.flatMap String.utf8EncodeChar
  match Encoding.ofBytes bytes with
  | .utf8 =>
    match body.toList with
    | '\ufeff' :: rest => some rest
    | cs => some cs
  | .utf16 order => (units16? order bytes).map ofUnits16
  | .utf32 order => (units32? order bytes).bind ofUnits32?

end DotBinding.Json
