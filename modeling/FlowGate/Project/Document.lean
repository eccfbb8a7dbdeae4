import FlowGate.Document.Fault
import FlowGate.Yaml.Fault

/-!
# Document files

A document file holds UTF-8 text in YAML, which a reader that is given reads. A document that does
not count as given, such as that of an empty file, is the empty mapping.
-/

namespace FlowGate

/-- A reader of YAML: the value of the document in a file, or why there is none. It gives up on a
document that is nested deeper than the program can follow. -/
abbrev YamlReader := List UInt8 → Except Yaml.Fault Value

inductive FileFault where
  | yaml (fault : Yaml.Fault)
  | content (fault : Fault)
  deriving DecidableEq, Repr

namespace FileFault

def message : FileFault → String
  | yaml fault => fault.message
  | content fault => fault.message

def isBroken : FileFault → Bool
  | yaml fault => fault.isBroken
  | content _ => false

def isExpected : FileFault → Bool
  | yaml fault => fault.isExpected
  | content fault => fault.isMalformed

end FileFault

def readDocument (yaml : YamlReader) (bytes : List UInt8) : Except FileFault Value := do
  let v ← (yaml bytes).mapError .yaml
  return v.orElse (.map [])

/-- A document of some sort from the bytes of its file. -/
def readDocumentAs {α : Type} (yaml : YamlReader) (read : Value → Except Fault α)
    (bytes : List UInt8) : Except FileFault α := do
  (read (← readDocument yaml bytes)).mapError .content

end FlowGate
