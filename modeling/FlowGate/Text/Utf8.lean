import FlowGate.Text.Quoted

/-!
# UTF-8

`Utf8.decode` goes through the bytes of a text one at a time. Between characters it expects a lead
byte, which says how many bytes follow and in which range the first of them lies; the others lie in
`0x80` to `0xbf`. What does not fit is reported with its place: the lead byte and the bytes after it
that were still good.
-/

namespace FlowGate.Utf8

inductive Reason where
  | startByte
  | continuation
  | cutOff
  deriving DecidableEq, Repr

/-- A bad sequence: its lead byte, the places of its first and last byte, and what is wrong. -/
structure Fault where
  lead : UInt8
  first : Nat
  last : Nat
  reason : Reason
  deriving DecidableEq, Repr

def Reason.text : Reason → String
  | startByte => "invalid start byte"
  | continuation => "invalid continuation byte"
  | cutOff => "unexpected end of data"

def Fault.message (f : Fault) : String :=
  "'utf-8' codec can't decode " ++
    (if f.first = f.last then
      "byte 0x" ++ String.ofList (Text.hexDigits 2 f.lead.toNat) ++ " in position "
        ++ toString f.first
    else "bytes in position " ++ toString f.first ++ "-" ++ toString f.last)
    ++ ": " ++ f.reason.text

/-- A character of which some bytes are still to come. -/
structure Pending where
  lead : UInt8
  first : Nat
  code : Nat
  need : Nat
  low : Nat
  high : Nat

/-- What a lead byte at a place announces. -/
def pending? (b : UInt8) (place : Nat) : Option Pending :=
  let n := b.toNat
  let announce (code need low high : Nat) : Option Pending :=
    some ⟨b, place, code, need, low, high⟩
  if 0xc2 ≤ n && n ≤ 0xdf then announce (n - 0xc0) 1 0x80 0xbf
  else if n = 0xe0 then announce 0 2 0xa0 0xbf
  else if n = 0xed then announce 0xd 2 0x80 0x9f
  else if 0xe1 ≤ n && n ≤ 0xef then announce (n - 0xe0) 2 0x80 0xbf
  else if n = 0xf0 then announce 0 3 0x90 0xbf
  else if 0xf1 ≤ n && n ≤ 0xf3 then announce (n - 0xf0) 3 0x80 0xbf
  else if n = 0xf4 then announce 4 3 0x80 0x8f
  else none

/-- Decodes the bytes from a place on, after characters in reverse and perhaps within one. -/
def decodeFrom (place : Nat) (done : List Char) : Option Pending → List UInt8 →
    Except Fault (List Char)
  | none, [] => .ok done.reverse
  | some p, [] => .error ⟨p.lead, p.first, place - 1, .cutOff⟩
  | none, b :: rest =>
    if b.toNat < 0x80 then decodeFrom (place + 1) (Char.ofNat b.toNat :: done) none rest
    else
      match pending? b place with
      | some p => decodeFrom (place + 1) done (some p) rest
      | none => .error ⟨b, place, place, .startByte⟩
  | some p, b :: rest =>
    let n := b.toNat
    if p.low ≤ n && n ≤ p.high then
      let code := p.code * 64 + (n - 0x80)
      if p.need ≤ 1 then decodeFrom (place + 1) (Char.ofNat code :: done) none rest
      else
        decodeFrom (place + 1) done
          (some { p with code := code, need := p.need - 1, low := 0x80, high := 0xbf }) rest
    else .error ⟨p.lead, p.first, place - 1, .continuation⟩

def decode (bytes : List UInt8) : Except Fault (List Char) := decodeFrom 0 [] none bytes

/-- The characters that bytes encode, with U+FFFD in the place of each bad sequence. -/
def decodeLossy (bytes : List UInt8) : List Char :=
  if _ : bytes = [] then []
  else
    match decode bytes with
    | .ok cs => cs
    | .error f =>
      ((decode (bytes.take f.first)).toOption.getD []) ++
        '\ufffd' :: decodeLossy (bytes.drop (f.last + 1))
termination_by bytes.length
decreasing_by
  have := List.length_pos_iff.2 ‹bytes ≠ []›
  simp only [List.length_drop]
  omega

end FlowGate.Utf8
