import FlowGate.Text.Utf8

/-!
# Text files in pieces

A text file is read a number of characters at a time. Its bytes are taken in chunks, which are
decoded as far as their last characters are complete; what is left waits for the next chunk. Every
line ends in a newline, also where the file has a carriage return, alone or in front of a newline.
A fault is found when the chunk that holds it is decoded, and is located in that chunk.
-/

namespace FlowGate.Text

/-- What is left of a text file. -/
structure Stream where
  /-- The bytes that have not been looked at. -/
  bytes : List UInt8
  /-- The bytes of a character that is not complete. -/
  tail : List UInt8
  /-- Whether a carriage return waits for the character behind it. -/
  returned : Bool
  /-- The characters that are ready. -/
  ready : List Char
  /-- The numbers of bytes and characters in the last chunk. -/
  ratio : Nat × Nat

namespace Stream

/-- A file that nothing has been read of. -/
def ofBytes (bytes : List UInt8) : Stream := ⟨bytes, [], false, [], (0, 0)⟩

/-- The least number of bytes in a chunk. -/
def chunkSize : Nat := 8192

/-- The number of bytes to take where some characters are wanted: as many as they would have in the
last chunk. -/
def wantedBytes (s : Stream) (count : Nat) : Nat :=
  let (bytes, chars) := s.ratio
  max chunkSize (if chars = 0 then count else max count (bytes * count / chars))

/-- Whether bytes end in the first two of the three bytes of a surrogate. -/
def endsInSurrogate (bytes : List UInt8) : Bool :=
  match bytes.reverse with
  | b :: a :: _ => a = 0xed && 0xa0 ≤ b && b ≤ 0xbf
  | _ => false

/-- The characters of a chunk and the bytes of one that is not complete, of which there are none at
the end of the file. -/
def decodeChunk (atEnd : Bool) (bytes : List UInt8) :
    Except Utf8.Fault (List Char × List UInt8) :=
  match Utf8.decode bytes with
  | .ok cs => .ok (cs, [])
  | .error f =>
    let waits := f.reason = .cutOff || f.first + 2 = bytes.length && endsInSurrogate bytes
    if waits && !atEnd then
      (Utf8.decode (bytes.take f.first)).map fun cs => (cs, bytes.drop f.first)
    else .error f

/-- The characters with newlines for carriage returns, each with the newline behind it. -/
def joinLines : List Char → List Char
  | [] => []
  | '\r' :: '\n' :: rest => '\n' :: joinLines rest
  | c :: rest => (if c = '\r' then '\n' else c) :: joinLines rest

/-- Makes the characters of a decoded chunk ready. -/
def accept (s : Stream) (atEnd : Bool) (cs : List Char) : Stream :=
  let waiting := s.returned && (atEnd || !cs.isEmpty)
  let cs := if waiting then '\r' :: cs else cs
  let returned := (s.returned && !waiting) || (!atEnd && cs.getLast? = some '\r')
  let cs := joinLines (if !atEnd && cs.getLast? = some '\r' then cs.dropLast else cs)
  { s with returned, ready := s.ready ++ cs, ratio := (s.ratio.1, cs.length) }

/-- Decodes the next chunk, where some characters are wanted. -/
def readChunk (s : Stream) (count : Nat) : Except Utf8.Fault Stream := do
  let chunk := s.bytes.take (s.wantedBytes count)
  let atEnd := chunk.isEmpty
  let (cs, tail) ← decodeChunk atEnd (s.tail ++ chunk)
  let s := { s with bytes := s.bytes.drop chunk.length, tail, ratio := (chunk.length, 0) }
  return s.accept atEnd cs

/-- Makes some characters ready, fewer at the end of the file. The bytes that are left bound the
chunks. -/
def fill (count : Nat) : Nat → Stream → Except Utf8.Fault Stream
  | 0, s => .ok s
  | chunks + 1, s => do
    if count ≤ s.ready.length then return s
    else if s.bytes.isEmpty then s.readChunk (count - s.ready.length)
    else fill count chunks (← s.readChunk (count - s.ready.length))

/-- The next characters, fewer at the end of the file, and what is left. -/
def read (s : Stream) (count : Nat) : Except Utf8.Fault (List Char × Stream) := do
  let s ← s.fill count (s.bytes.length + 2)
  return (s.ready.take count, { s with ready := s.ready.drop count })

end Stream

end FlowGate.Text
