import Triage.Text.Quoted

/-!
# Bytes that encode no text

A character is encoded by one to four bytes.  The first byte tells how many there are, and each
byte behind it lies in a range, which is narrower for the second byte of some characters.  Bytes
that encode no text are reported by the first place where no character is encoded: the bytes that
a character might have started with, and what is wrong behind them.
-/

namespace Triage.Text

set_option autoImplicit false

/-- The first bytes that encode no character. -/
structure EncodingFault where
  /-- How many bytes stand before them. -/
  start : Nat
  bytes : List UInt8
  reason : String

/-- How many bytes follow the first byte of a character, and the range of the next one. -/
def furtherBytes? (first : UInt8) : Option (Nat × UInt8 × UInt8) :=
  if first ≤ 0x7f then some (0, 0x80, 0xbf)
  else if 0xc2 ≤ first && first ≤ 0xdf then some (1, 0x80, 0xbf)
  else if first = 0xe0 then some (2, 0xa0, 0xbf)
  else if first = 0xed then some (2, 0x80, 0x9f)
  else if 0xe1 ≤ first && first ≤ 0xef then some (2, 0x80, 0xbf)
  else if first = 0xf0 then some (3, 0x90, 0xbf)
  else if 0xf1 ≤ first && first ≤ 0xf3 then some (3, 0x80, 0xbf)
  else if first = 0xf4 then some (3, 0x80, 0x8f)
  else none

/-- The bytes that go on with a character, as many of the wanted ones as lie in their ranges. -/
def continuedBy (low high : UInt8) : Nat → List UInt8 → List UInt8
  | 0, _ | _, [] => []
  | wanted + 1, byte :: rest =>
      if low ≤ byte && byte ≤ high then byte :: continuedBy 0x80 0xbf wanted rest else []

/-- The first fault of bytes, `start` of which have been passed; `within` more belong to a
character that has been read. -/
def encodingFaultFrom? (start within : Nat) : List UInt8 → Option EncodingFault
  | [] => none
  | first :: rest =>
      match within with
      | within + 1 => encodingFaultFrom? (start + 1) within rest
      | 0 =>
          match furtherBytes? first with
          | none => some ⟨start, [first], "invalid start byte"⟩
          | some (wanted, low, high) =>
              let further := continuedBy low high wanted rest
              if further.length = wanted then encodingFaultFrom? (start + 1) wanted rest
              else if further.length = rest.length then
                some ⟨start, first :: further, "unexpected end of data"⟩
              else some ⟨start, first :: further, "invalid continuation byte"⟩

/-- What a fault says: its only byte, or where its bytes stand. -/
def EncodingFault.message (fault : EncodingFault) : String :=
  let place := match fault.bytes with
    | [byte] => "byte 0x" ++ String.ofList (hexDigits 2 byte.toNat) ++ " in position " ++
        toString fault.start
    | bytes => "bytes in position " ++ toString fault.start ++ "-" ++
        toString (fault.start + bytes.length - 1)
  "'utf-8' codec can't decode " ++ place ++ ": " ++ fault.reason

/-- The first fault of bytes. -/
def encodingFault? (bytes : ByteArray) : Option EncodingFault := encodingFaultFrom? 0 0 bytes.toList

/-- A character of three bytes that is broken off. -/
example : (encodingFaultFrom? 0 0 [0x41, 0xe2, 0x82, 0x41]).map EncodingFault.message =
    some "'utf-8' codec can't decode bytes in position 1-2: invalid continuation byte" := by
  decide +kernel

end Triage.Text
