/-!
# Tokens of YAML

The marks and scalars that a YAML text consists of. Indentation shows up as the start and end of
block collections, and a key that is recognised by the colon after it as a `key` token in front.
-/

namespace FlowGate.Yaml

inductive Token where
  /-- The directive for a version of YAML. -/
  | version (major : Nat)
  /-- The directive that lets a handle stand for the beginning of tags. -/
  | shorthand (handle beginning : String)
  | otherDirective
  | documentStart
  | documentEnd
  | blockListStart
  | blockMapStart
  | blockEnd
  | flowListStart
  | flowListEnd
  | flowMapStart
  | flowMapEnd
  | entry
  | comma
  | key
  | value
  | alias (name : String)
  | anchor (name : String)
  | tag (handle : Option String) (ending : String)
  | scalar (plain : Bool) (text : String)
  | textEnd
  deriving DecidableEq, Repr

def Token.isDirective : Token → Bool
  | version _ | shorthand .. | otherDirective => true
  | _ => false

end FlowGate.Yaml
