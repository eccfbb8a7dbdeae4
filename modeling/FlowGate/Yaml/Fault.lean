import FlowGate.Calendar
import FlowGate.Number.Reading
import FlowGate.Text.Quoted
import FlowGate.Text.Utf8

/-!
# Faults of YAML documents

A text may be no YAML at all: it holds a character that may not occur, a wrong token, tokens in a
wrong order, nodes that do not make up one document, or nodes that stand for no value. Other faults
lie in what a text stands for: bytes that are no text, dates out of range, numbers that cannot be
read. Of these some are not expected of a document.
-/

namespace FlowGate.Yaml

inductive Fault where
  | character
  | token
  | arrangement
  | composition
  | construction
  | encoding (fault : Utf8.Fault)
  | calendar (fault : CalendarFault)
  | tooManyDigits (count : Nat)
  | badInteger (base : Nat) (text : String)
  | badDouble (text : String)
  /-- The number of a character is past the last one. -/
  | noCharacter
  /-- The number of a character is past every number of characters. -/
  | hugeCharacter
  | hugeFactor
  | emptyNumber
  | noBoolean (word : String)
  | noCalendar
  /-- The reader gives up on a document that is nested too deep. -/
  | givenUp (message : String)
  deriving DecidableEq, Repr

namespace Fault

/-- Whether the text is no YAML; otherwise it is, but a value in it cannot be represented. -/
def isBroken : Fault → Bool
  | character | token | arrangement | composition | construction => true
  | _ => false

/-- Whether the fault is one that documents are expected to have. -/
def isExpected : Fault → Bool
  | hugeCharacter | hugeFactor | emptyNumber | noBoolean _ | noCalendar | givenUp _ => false
  | _ => true

/-- The most characters of a number that a message repeats. -/
def shownDigits : Nat := 200

/-- The wording of a fault; where and why a text is no YAML is not described. -/
def message : Fault → String
  | encoding fault => fault.message
  | calendar fault => fault.message
  | tooManyDigits count => Number.tooManyDigits count
  | badInteger base text =>
    let shown := String.ofList ((Text.quoted text).toList.take shownDigits)
    "invalid literal for int() with base " ++ toString base ++ ": " ++ shown
  | badDouble text => "could not convert string to float: " ++ Text.quoted text
  | noCharacter => "chr() arg not in range(0x110000)"
  | hugeCharacter => "Python int too large to convert to C int"
  | hugeFactor => "int too large to convert to float"
  | emptyNumber => "string index out of range"
  | noBoolean word => Text.quoted word
  | noCalendar => "'NoneType' object has no attribute 'groupdict'"
  | givenUp message => message
  | _ => "<yaml error>"

end Fault

end FlowGate.Yaml
