/-!
Text out of bytes.

`decodeUtf8` reads UTF-8. Bytes that are no code point are a gap: a lead byte with as many of its
continuations as fit, or a single byte that leads nothing. Lenient decoding shows the replacement
character for each gap, strict decoding refuses the text. The sixteen and thirty-two bit encodings
are strict. Strict decoding admits surrogates in every encoding: two of them that pair up are one
character, and one that stands alone shows as the replacement character.
-/

namespace Automation.Text

/-- What a byte starts: the bits it contributes, the least and the greatest byte that may follow,
and how many bytes follow. -/
structure Lead where
  bits : Nat
  least : Nat
  greatest : Nat
  following : Nat
  deriving DecidableEq, Repr

/-- The lead that a byte is; overlong forms, code points beyond the last one, and surrogates unless
they are admitted, are excluded by the bound on the second byte. -/
def Lead.ofByte? (surrogates : Bool) (byte : Nat) : Option Lead :=
  if 0xc2 ≤ byte ∧ byte ≤ 0xdf then some ⟨byte - 0xc0, 0x80, 0xbf, 1⟩
  else if byte = 0xe0 then some ⟨0, 0xa0, 0xbf, 2⟩
  else if byte = 0xed then some ⟨0xd, 0x80, if surrogates then 0xbf else 0x9f, 2⟩
  else if 0xe1 ≤ byte ∧ byte ≤ 0xef then some ⟨byte - 0xe0, 0x80, 0xbf, 2⟩
  else if byte = 0xf0 then some ⟨0, 0x90, 0xbf, 3⟩
  else if 0xf1 ≤ byte ∧ byte ≤ 0xf3 then some ⟨byte - 0xf0, 0x80, 0xbf, 3⟩
  else if byte = 0xf4 then some ⟨4, 0x80, 0x8f, 3⟩
  else none

/-- A code point, or a gap, after each lead; `pending` is a code point that has begun. -/
def decodeFrom (surrogates : Bool) : (pending : Option Lead) → List UInt8 → List (Option Nat)
  | none, [] => []
  | some _, [] => [none]
  | pending, byte :: rest =>
      let code := byte.toNat
      let start (before : List (Option Nat)) : List (Option Nat) :=
        if code < 0x80 then before ++ some code :: decodeFrom surrogates none rest
        else match Lead.ofByte? surrogates code with
          | some lead => before ++ decodeFrom surrogates (some lead) rest
          | none => before ++ none :: decodeFrom surrogates none rest
      match pending with
      | none => start []
      | some lead =>
          if lead.least ≤ code ∧ code ≤ lead.greatest then
            let bits := lead.bits * 64 + (code - 0x80)
            if lead.following ≤ 1 then some bits :: decodeFrom surrogates none rest
            else decodeFrom surrogates (some ⟨bits, 0x80, 0xbf, lead.following - 1⟩) rest
          else start [none]

/-- The code points and gaps of bytes in UTF-8. -/
def decodeUtf8 (surrogates : Bool) (bytes : List UInt8) : List (Option Nat) :=
  decodeFrom surrogates none bytes

/-- The text of bytes in UTF-8, with the replacement character for each gap. -/
def decodeLenient (bytes : List UInt8) : List Char :=
  (decodeUtf8 false bytes).map fun code => (code.map Char.ofNat).getD '\ufffd'

/-- The character of a code point that pairs with no other. -/
def ofCode (code : Nat) : Char :=
  if 0xd800 ≤ code ∧ code < 0xe000 then '\ufffd' else Char.ofNat code

/-- Code points as text, with paired surrogates joined. -/
def ofCodes : List Nat → List Char
  | [] => []
  | [code] => [ofCode code]
  | high :: low :: rest =>
      if 0xd800 ≤ high ∧ high < 0xdc00 ∧ 0xdc00 ≤ low ∧ low < 0xe000 then
        Char.ofNat (0x10000 + (high - 0xd800) * 0x400 + (low - 0xdc00)) :: ofCodes rest
      else ofCode high :: ofCodes (low :: rest)

/-- The text of bytes in UTF-8, if there is no gap. -/
def decodeStrict? (bytes : List UInt8) : Option (List Char) :=
  ((decodeUtf8 true bytes).mapM id).map ofCodes

/-- Bytes in pairs, most significant byte first. -/
def pairs? : List UInt8 → Option (List Nat)
  | [] => some []
  | [_] => none
  | high :: low :: rest => (pairs? rest).map fun units => (high.toNat * 256 + low.toNat) :: units

/-- Bytes with those of each pair exchanged. -/
def swapPairs : List UInt8 → List UInt8
  | first :: second :: rest => second :: first :: swapPairs rest
  | rest => rest

/-- Sixteen bit units in pairs, most significant unit first, as code points. -/
def unitPairs? : List Nat → Option (List Nat)
  | [] => some []
  | [_] => none
  | high :: low :: rest =>
      let code := high * 0x10000 + low
      if 0x10ffff < code then none else (unitPairs? rest).map fun codes => code :: codes

/-- Units with those of each pair exchanged. -/
def swapUnits : List Nat → List Nat
  | first :: second :: rest => second :: first :: swapUnits rest
  | rest => rest

/-- Text in sixteen bit units. -/
def decodeWide? (littleEndian : Bool) (bytes : List UInt8) : Option (List Char) :=
  (pairs? (if littleEndian then swapPairs bytes else bytes)).map ofCodes

/-- Text in thirty-two bit code points. -/
def decodeFull? (littleEndian : Bool) (bytes : List UInt8) : Option (List Char) := do
  let units ← pairs? (if littleEndian then swapPairs bytes else bytes)
  (unitPairs? (if littleEndian then swapUnits units else units)).map ofCodes

/-- The text of bytes in the encoding that their first bytes show: by a mark, else by where zeros
stand, else UTF-8. -/
def decodeDetected? : List UInt8 → Option (List Char)
  | 0x00 :: 0x00 :: 0xfe :: 0xff :: rest => decodeFull? false rest
  | 0xff :: 0xfe :: 0x00 :: 0x00 :: rest => decodeFull? true rest
  | 0xfe :: 0xff :: rest => decodeWide? false rest
  | 0xff :: 0xfe :: rest => decodeWide? true rest
  | 0xef :: 0xbb :: 0xbf :: rest => decodeStrict? rest
  | bytes =>
      match bytes with
      | a :: b :: c :: d :: _ =>
          if a = 0 then (if b ≠ 0 then decodeWide? false bytes else decodeFull? false bytes)
          else if b = 0 then
            (if c ≠ 0 ∨ d ≠ 0 then decodeWide? true bytes else decodeFull? true bytes)
          else decodeStrict? bytes
      | [a, b] =>
          if a = 0 then decodeWide? false bytes
          else if b = 0 then decodeWide? true bytes
          else decodeStrict? bytes
      | _ => decodeStrict? bytes

end Automation.Text
