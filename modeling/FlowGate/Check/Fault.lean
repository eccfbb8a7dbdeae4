import FlowGate.Value.Text

/-!
# Faults of checks

Two things stop a check: a handle on a decision that cannot be compared with the answers, such as a
list or a mapping, and a value that a message or a rule reads as text and that is too long to have
one.
-/

namespace FlowGate

inductive CheckFault where
  | handle (v : Value)
  | tooLong
  deriving DecidableEq, Repr

def CheckFault.message : CheckFault → String
  | handle v => "unhashable type: '" ++ v.typeName ++ "'"
  | tooLong => Number.tooLong

end FlowGate
