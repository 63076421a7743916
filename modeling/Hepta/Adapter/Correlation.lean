import Mathlib.Algebra.Group.Nat.Defs
import Hepta.Library.Checked

/-!
# Order references

`IbVenueCorrelationCodec`: a venue correlation is the text of a digest, and the order reference that
the broker echoes holds the digest in the letters of base 64.
-/

namespace Hepta

namespace IbVenueCorrelationCodec

def kPrefix : String := "hepta-v1-sha256:"

def kAlphabet : List Char :=
  "ABCDEFGHIJKLMNOPQRSTUVWXYZabcdefghijklmnopqrstuvwxyz0123456789-_".toList

def hexValue (c : Char) : Option ℕ :=
  if '0' ≤ c ∧ c ≤ '9' then some (c.toNat - '0'.toNat)
  else if 'a' ≤ c ∧ c ≤ 'f' then some (c.toNat - 'a'.toNat + 10)
  else none

def hexDigits : List Char := "0123456789abcdef".toList

def base64Value (c : Char) : Option ℕ :=
  let i := kAlphabet.idxOf c
  if i < 64 then some i else none

/-- Two digits make a byte. -/
def hexBytes : List Char → Option (List ℕ)
  | [] => some []
  | [_] => none
  | high :: low :: rest => do
    let high ← hexValue high
    let low ← hexValue low
    let bytes ← hexBytes rest
    some ((high * 16 + low) :: bytes)

def hex (bytes : List ℕ) : List Char :=
  bytes.flatMap fun b => [hexDigits.getD (b / 16 % 16) '0', hexDigits.getD (b % 16) '0']

/-- The loop of the encoder: `bits` bits of the accumulator have not been written. -/
def encodeSextets (accumulator bits : ℕ) : List ℕ → List ℕ
  | [] => if 0 < bits then [accumulator * 2 ^ (6 - bits) % 64] else []
  | byte :: rest =>
    let accumulator := (accumulator * 256 + byte) % 2 ^ 32
    let bits := bits + 8
    if 12 ≤ bits then
      accumulator / 2 ^ (bits - 6) % 64 :: accumulator / 2 ^ (bits - 12) % 64 ::
        encodeSextets accumulator (bits - 12) rest
    else accumulator / 2 ^ (bits - 6) % 64 :: encodeSextets accumulator (bits - 6) rest

/-- The loop of the decoder, with what is left of the accumulator at its end. -/
def decodeSextets (accumulator bits : ℕ) : List ℕ → List ℕ × ℕ × ℕ
  | [] => ([], accumulator, bits)
  | value :: rest =>
    let accumulator := (accumulator * 64 + value) % 2 ^ 32
    let bits := bits + 6
    if 8 ≤ bits then
      let (bytes, final) := decodeSextets accumulator (bits - 8) rest
      (accumulator / 2 ^ (bits - 8) % 256 :: bytes, final)
    else decodeSextets accumulator bits rest

def encodeOrderRef (correlationId : String) : Except String String :=
  let text := correlationId.toList
  if text.length ≠ kPrefix.length + 64 ∨ text.take kPrefix.length ≠ kPrefix.toList then
    .error "IB_CORRELATION_FORMAT_INVALID"
  else match hexBytes (text.drop kPrefix.length) with
    | none => .error "IB_CORRELATION_FORMAT_INVALID"
    | some bytes =>
      let orderRef := 'H' :: '1' :: (encodeSextets 0 0 bytes).map fun v => kAlphabet.getD v 'A'
      if orderRef.length = 45 then .ok (String.ofList orderRef)
      else .error "IB_CORRELATION_ENCODE_FAILED"

def decodeOrderRef (orderRef : String) : Except String String :=
  let text := orderRef.toList
  if text.length ≠ 45 ∨ text.take 2 ≠ ['H', '1'] then .error "IB_ORDER_REF_NOT_HEPTA_CORRELATION"
  else match (text.drop 2).mapM base64Value with
    | none => .error "IB_ORDER_REF_CORRELATION_INVALID"
    | some values =>
      let (bytes, accumulator, bits) := decodeSextets 0 0 values
      if bytes.length ≠ 32 ∨ bits ≠ 2 ∨ accumulator % 4 ≠ 0 then
        .error "IB_ORDER_REF_CORRELATION_INVALID"
      else .ok (kPrefix ++ String.ofList (hex bytes))

def claimsHepta (orderRef : String) : Bool := orderRef.toList.take 2 = ['H', '1']

end IbVenueCorrelationCodec

end Hepta
