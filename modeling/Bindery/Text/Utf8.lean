/-
This file holds the byte form of texts. A decoder accepts exactly the well-formed sequences
(no surplus bytes for a character, no surrogates, nothing beyond U+10FFFF) and otherwise says
where the first bad sequence lies and what is wrong with it.
-/

import Bindery.Text.Quoted

namespace Bindery.Text

/-- The bytes of a text. -/
def encode (text : List Char) : List UInt8 := text.flatMap String.utf8EncodeChar

/-- `encode` on texts. -/
def bytesOf (text : String) : List UInt8 := encode text.toList

/-- What is wrong with a sequence of bytes. -/
inductive Utf8Defect where
  /-- The byte begins no character. -/
  | start
  /-- A byte that had to continue a character does not. -/
  | continuation
  /-- The bytes end within a character. -/
  | ending
deriving DecidableEq, Repr

/-- The words for a defect. -/
def Utf8Defect.message : Utf8Defect → String
  | .start => "invalid start byte"
  | .continuation => "invalid continuation byte"
  | .ending => "unexpected end of data"

/-- The first bad sequence: where it begins, its bytes, and its defect. -/
structure Utf8Fault where
  position : Nat
  bytes : List UInt8
  defect : Utf8Defect
deriving DecidableEq, Repr

/-- A single bad byte is shown, of several bad bytes the range of positions. -/
def Utf8Fault.message (fault : Utf8Fault) : String :=
  let place :=
    match fault.bytes with
    | [byte] =>
      "byte 0x" ++ String.ofList (hexDigits 2 byte.toNat) ++
        " in position " ++ toString fault.position
    | bytes =>
      "bytes in position " ++ toString fault.position ++ "-" ++
        toString (fault.position + bytes.length - 1)
  "'utf-8' codec can't decode " ++ place ++ ": " ++ fault.defect.message

/-- Whether a byte carries six bits of a character that began earlier. -/
def continues (byte : UInt8) : Bool := 0x80 ≤ byte && byte ≤ 0xBF

/-- How many bytes follow a first byte; none for a byte that begins no character. -/
def followers? (first : UInt8) : Option Nat :=
  if first < 0x80 then some 0
  else if first < 0xC2 then none
  else if first < 0xE0 then some 1
  else if first < 0xF0 then some 2
  else if first < 0xF5 then some 3
  else none

/-- Whether a second byte may follow a first one. Besides continuing the character it must
not make it representable by fewer bytes, a surrogate, or too large. -/
def seconds (first second : UInt8) : Bool :=
  continues second &&
    (if first = 0xE0 then 0xA0 ≤ second
     else if first = 0xED then second < 0xA0
     else if first = 0xF0 then 0x90 ≤ second
     else if first = 0xF4 then second < 0x90
     else true)

/-- The bits that a first byte contributes. -/
def leadBits (first : UInt8) : Nat :=
  if first < 0x80 then first.toNat
  else if first < 0xE0 then first.toNat % 0x20
  else if first < 0xF0 then first.toNat % 0x10
  else first.toNat % 0x8

/-- The character that well-formed bytes stand for. -/
def assemble (first : UInt8) (others : List UInt8) : Char :=
  Char.ofNat (others.foldl (fun value byte => value * 0x40 + byte.toNat % 0x40) (leadBits first))

/-- The bytes after a first one that belong to its character: at most `count`, up to the first
that may not stand where it stands. -/
def takeFollowers (first : UInt8) (count : Nat) (rest : List UInt8) : List UInt8 :=
  match count, rest with
  | 0, _ => []
  | _, [] => []
  | count + 1, second :: more =>
    if seconds first second then second :: (more.take count).takeWhile continues else []

/-- One character from the front of the bytes with the bytes after it, or the bad bytes and
their defect. -/
def decodeFirst (first : UInt8) (rest : List UInt8) :
    Except (List UInt8 × Utf8Defect) (Char × List UInt8) :=
  match followers? first with
  | none => .error ([first], .start)
  | some count =>
    let others := takeFollowers first count rest
    if others.length = count then .ok (assemble first others, rest.drop count)
    else if others.length = rest.length then .error (first :: others, .ending)
    else .error (first :: others, .continuation)

theorem decodeFirst_length {first : UInt8} {rest left : List UInt8} {c : Char}
    (step : decodeFirst first rest = .ok (c, left)) : left.length ≤ rest.length := by
  unfold decodeFirst at step
  split at step
  · cases step
  · dsimp only at step
    split at step
    · cases step
      simp
    · split at step <;> cases step

/-- The text of bytes that begin at `position`. -/
def decodeAt (position : Nat) : List UInt8 → Except Utf8Fault (List Char)
  | [] => .ok []
  | first :: rest =>
    match step : decodeFirst first rest with
    | .error (bytes, defect) => .error ⟨position, bytes, defect⟩
    | .ok (c, left) =>
      (decodeAt (position + (rest.length + 1 - left.length)) left).map (c :: ·)
termination_by bytes => bytes.length
decreasing_by
  have bound := decodeFirst_length step
  simp only [List.length_cons]
  omega

/-- The text of bytes, or their first bad sequence. -/
def decode (bytes : List UInt8) : Except Utf8Fault (List Char) := decodeAt 0 bytes

/-- `decode` with a text as result. -/
def textOf (bytes : List UInt8) : Except Utf8Fault String := (decode bytes).map String.ofList

end Bindery.Text
