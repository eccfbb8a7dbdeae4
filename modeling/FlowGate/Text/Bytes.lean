import FlowGate.Text.Quoted

/-!
# Text for bytes

Bytes can be given in text with 64 characters, each for six bits, and two marks to fill up the last
group of four; other characters do not count. The literal of bytes shows those of ASCII as
characters and the others by two hexadecimal digits.
-/

namespace FlowGate.Text

def sixBits? (c : Char) : Option Nat :=
  let n := c.toNat
  if 'A' ≤ c && c ≤ 'Z' then some (n - 'A'.toNat)
  else if 'a' ≤ c && c ≤ 'z' then some (n - 'a'.toNat + 26)
  else if '0' ≤ c && c ≤ '9' then some (n - '0'.toNat + 52)
  else if c = '+' then some 62
  else if c = '/' then some 63
  else none

/-- The bytes of the rest of a text: `place` counts the characters of the group so far, `left` holds
the bits of the last one that belong to no byte yet, and `fills` counts the marks just in front. A
group that is filled up ends the text. -/
def sixBitBytes (done : List UInt8) (place left fills : Nat) : List Char → Option (List UInt8)
  | [] => if place = 0 then some done.reverse else none
  | c :: rest =>
    if c = '=' then
      if 2 ≤ place && 4 ≤ place + fills + 1 then some done.reverse
      else sixBitBytes done place left (if 2 ≤ place then fills + 1 else fills) rest
    else
      match sixBits? c with
      | none => sixBitBytes done place left fills rest
      | some n =>
        let byte (bits : Nat) : UInt8 := UInt8.ofNat bits
        match place with
        | 0 => sixBitBytes done 1 n 0 rest
        | 1 => sixBitBytes (byte (left * 4 + n / 16) :: done) 2 (n % 16) 0 rest
        | 2 => sixBitBytes (byte (left * 16 + n / 4) :: done) 3 (n % 4) 0 rest
        | _ => sixBitBytes (byte (left * 64 + n) :: done) 0 0 0 rest

def bytes? (cs : List Char) : Option (List UInt8) := sixBitBytes [] 0 0 0 cs

/-- The form of one byte inside the given quotes. -/
def literalByte (quote : Char) (b : UInt8) : List Char :=
  let c := Char.ofNat b.toNat
  if c = quote || c = '\\' || c = '\n' || c = '\r' || c = '\t' then quoteChar quote c
  else if 0x20 ≤ b && b < 0x7f then [c]
  else '\\' :: 'x' :: hexDigits 2 b.toNat

def bytesLiteral (bytes : List UInt8) : String :=
  let quote := quoteFor (bytes.map fun b => Char.ofNat b.toNat)
  String.ofList ('b' :: quote :: bytes.flatMap (literalByte quote) ++ [quote])

end FlowGate.Text
