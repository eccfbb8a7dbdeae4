/-!
# Codes of characters

Characters may be given by numbers. Two surrogate numbers in a row, a high and a low one, stand for
one character past U+FFFF; a surrogate number that stands alone is no character and is replaced by
U+FFFD.
-/

namespace FlowGate.Text

def isHighSurrogate (n : Nat) : Bool := 0xd800 ≤ n && n ≤ 0xdbff

def isLowSurrogate (n : Nat) : Bool := 0xdc00 ≤ n && n ≤ 0xdfff

def ofCode (n : Nat) : Char :=
  if isHighSurrogate n || isLowSurrogate n then '\ufffd' else Char.ofNat n

/-- The character of a high and a low surrogate. -/
def ofSurrogates (high low : Nat) : Char :=
  Char.ofNat (0x10000 + (high - 0xd800) * 0x400 + (low - 0xdc00))

def ofCodes : List Nat → List Char
  | [] => []
  | [n] => [ofCode n]
  | m :: n :: rest =>
    if isHighSurrogate m && isLowSurrogate n then ofSurrogates m n :: ofCodes rest
    else ofCode m :: ofCodes (n :: rest)

end FlowGate.Text
