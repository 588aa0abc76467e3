import ConceptMap.Text.Basic

/-!
# UTF-8

Bytes are written from texts and read back as texts.  Reading stops at the first fault and says
which bytes are at fault: a byte that starts no character, a byte sequence that is cut short by a
byte that cannot continue it, or one that is cut short by the end of the input.
-/

namespace ConceptMap
namespace Utf8

/-- Why bytes are not UTF-8. -/
inductive Reason where
  /-- No character starts with this byte. -/
  | invalidStart
  /-- The next byte cannot continue the sequence. -/
  | invalidContinuation
  /-- The input ends inside the sequence. -/
  | unexpectedEnd
deriving DecidableEq, Repr

/-- The first place at which bytes are not UTF-8. -/
structure Fault where
  /-- Index of the first byte at fault. -/
  position : Nat
  /-- The bytes at fault: the part of a sequence that was read before the fault showed. -/
  bytes : List UInt8
  /-- What is wrong with them. -/
  reason : Reason
deriving DecidableEq, Repr

/-- The value of a byte that starts a sequence, with the number of bytes that continue it and the
range in which the first of these lies. -/
structure Lead where
  /-- The bits of the character that the first byte carries. -/
  bits : Nat
  /-- How many bytes follow. -/
  tails : Nat
  /-- Least value of the second byte. -/
  low : Nat
  /-- Greatest value of the second byte. -/
  high : Nat
deriving DecidableEq, Repr

/-- What a first byte announces.  The range of the second byte leaves out longer forms of shorter
sequences, surrogates, and values beyond U+10FFFF. -/
def lead (byte : UInt8) : Option Lead :=
  let value := byte.toNat
  if value < 0x80 then some ⟨value, 0, 0, 0⟩
  else if value < 0xC2 then none
  else if value < 0xE0 then some ⟨value - 0xC0, 1, 0x80, 0xBF⟩
  else if value = 0xE0 then some ⟨0, 2, 0xA0, 0xBF⟩
  else if value = 0xED then some ⟨0xD, 2, 0x80, 0x9F⟩
  else if value < 0xF0 then some ⟨value - 0xE0, 2, 0x80, 0xBF⟩
  else if value = 0xF0 then some ⟨0, 3, 0x90, 0xBF⟩
  else if value < 0xF4 then some ⟨value - 0xF0, 3, 0x80, 0xBF⟩
  else if value = 0xF4 then some ⟨4, 3, 0x80, 0x8F⟩
  else none

/-- A sequence that has been read in part. -/
structure Pending where
  /-- The bytes read so far. -/
  bytes : List UInt8
  /-- The bits of the character so far. -/
  bits : Nat
  /-- How many bytes are to come after the next one. -/
  later : Nat
  /-- Least value of the next byte. -/
  low : Nat
  /-- Greatest value of the next byte. -/
  high : Nat
deriving DecidableEq, Repr

/-- The fault of a sequence that is cut short before the byte at `position`. -/
def Pending.fault (pending : Pending) (position : Nat) (reason : Reason) : Fault :=
  ⟨position - pending.bytes.length, pending.bytes, reason⟩

/-- Reads the bytes from `position` on, where the sequence in progress, if any, was begun before. -/
def decodeFrom : Nat → Option Pending → List UInt8 → Except Fault Text
  | _, none, [] => .ok []
  | position, some pending, [] => .error (pending.fault position .unexpectedEnd)
  | position, none, byte :: rest =>
      match lead byte with
      | none => .error ⟨position, [byte], .invalidStart⟩
      | some ⟨bits, 0, _, _⟩ =>
          (decodeFrom (position + 1) none rest).map (Char.ofNat bits :: ·)
      | some ⟨bits, later + 1, low, high⟩ =>
          decodeFrom (position + 1) (some ⟨[byte], bits, later, low, high⟩) rest
  | position, some pending, byte :: rest =>
      if pending.low ≤ byte.toNat ∧ byte.toNat ≤ pending.high then
        let bits := pending.bits * 64 + (byte.toNat - 0x80)
        match pending.later with
        | 0 => (decodeFrom (position + 1) none rest).map (Char.ofNat bits :: ·)
        | later + 1 =>
            decodeFrom (position + 1) (some ⟨pending.bytes ++ [byte], bits, later, 0x80, 0xBF⟩) rest
      else
        .error (pending.fault position .invalidContinuation)

/-- The text that the bytes spell, or the first fault in them. -/
def decode (bytes : List UInt8) : Except Fault Text := decodeFrom 0 none bytes

/-- The bytes of one character. -/
def encodeChar (character : Char) : List UInt8 :=
  let code := character.toNat
  if code < 0x80 then [.ofNat code]
  else if code < 0x800 then [.ofNat (0xC0 + code / 64), .ofNat (0x80 + code % 64)]
  else if code < 0x10000 then
    [.ofNat (0xE0 + code / 4096), .ofNat (0x80 + code / 64 % 64), .ofNat (0x80 + code % 64)]
  else
    [.ofNat (0xF0 + code / 262144), .ofNat (0x80 + code / 4096 % 64),
      .ofNat (0x80 + code / 64 % 64), .ofNat (0x80 + code % 64)]

/-- The bytes of a text. -/
def encode (text : Text) : List UInt8 := text.flatMap encodeChar

/-- What a reason is called in messages. -/
def Reason.description : Reason → Text
  | .invalidStart => "invalid start byte"
  | .invalidContinuation => "invalid continuation byte"
  | .unexpectedEnd => "unexpected end of data"

/-- A byte as two lower-case hexadecimal digits. -/
def hexByte (byte : UInt8) : Text :=
  [Nat.digitChar (byte.toNat / 16), Nat.digitChar (byte.toNat % 16)]

/-- The report of a fault: one byte is shown, a longer sequence is given by its bounds. -/
def Fault.message (fault : Fault) : Text :=
  let place : Text :=
    match fault.bytes with
    | [byte] => "byte 0x" ++ hexByte byte ++ " in position " ++ Text.ofNat fault.position
    | bytes =>
        "bytes in position " ++ Text.ofNat fault.position ++ "-" ++
          Text.ofNat (fault.position + bytes.length - 1)
  "'utf-8' codec can't decode " ++ place ++ ": " ++ fault.reason.description

@[simp]
theorem encode_nil : encode [] = [] := rfl

@[simp]
theorem encode_append (front back : Text) :
    encode (front ++ back) = encode front ++ encode back := by
  simp [encode]

end Utf8
end ConceptMap
