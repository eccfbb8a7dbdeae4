/-!
# Cutting text

`split` cuts a text at every separator, so that there is always a part, and `cut` at the first one.
-/

namespace FlowGate.Text

def split (separator : Char) (cs : List Char) : List (List Char) :=
  cs.foldr (fun c parts => match parts with
    | part :: rest => if c = separator then [] :: part :: rest else (c :: part) :: rest
    | [] => [[c]]) [[]]

/-- The part in front of the first separator, and the part behind it if there is one. -/
def cut (separator : Char) (cs : List Char) : List Char × Option (List Char) :=
  (cs.takeWhile (· ≠ separator), (cs.dropWhile (· ≠ separator)).tail?)

end FlowGate.Text
