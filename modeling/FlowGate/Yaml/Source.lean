import FlowGate.Text.Stream
import FlowGate.Yaml.Fault

/-!
# Sources

The characters of a YAML document as they can be had from its file, and the fault that is met after
them. The file is read in pieces, and no character of a piece can be had if the piece cannot be read
or holds a character that may not occur. So a fault far behind does not show while nothing asks for
that piece.
-/

namespace FlowGate.Yaml

def isAllowed (c : Char) : Bool :=
  let n := c.toNat
  n = 0x9 || n = 0xa || n = 0xd || (0x20 ≤ n && n ≤ 0x7e) || n = 0x85
    || (0xa0 ≤ n && n ≤ 0xd7ff) || (0xe000 ≤ n && n ≤ 0xfffd) || 0x10000 ≤ n

/-- The characters that can be had, and what is met after them; nothing where the text ends. -/
structure Source where
  chars : List Char
  beyond : Option Fault
  deriving DecidableEq, Repr

namespace Source

/-- The number of characters that are read at once. -/
def readSize : Nat := 4096

/-- A piece of a file: what some reads in a row give. -/
def piece (s : Text.Stream) : Nat → Except Fault (List Char × Text.Stream)
  | 0 => .ok ([], s)
  | reads + 1 => do
    let (cs, s) ← (s.read readSize).mapError .encoding
    let (more, s) ← piece s reads
    return (cs ++ more, s)

/-- The characters of a file from some pieces on, of which the first takes a number of reads. The
file bounds the number of pieces. -/
def ofStream : Nat → Nat → List (List Char) → Text.Stream → Source
  | 0, _, done, _ => ⟨done.reverse.flatten, none⟩
  | pieces + 1, reads, done, s =>
    match piece s reads with
    | .error e => ⟨done.reverse.flatten, some e⟩
    | .ok (cs, s) =>
      if cs.isEmpty then ⟨done.reverse.flatten, none⟩
      else if cs.all isAllowed then ofStream pieces 1 (cs :: done) s
      else ⟨done.reverse.flatten, some .character⟩

/-- The source in a file. The first piece takes two reads. -/
def ofBytes (bytes : List UInt8) : Source :=
  ofStream (bytes.length + 2) 2 [] (.ofBytes bytes)

end Source

end FlowGate.Yaml
