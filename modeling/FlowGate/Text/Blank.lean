/-!
# Blank characters

Blank are the controls that separate (tab to carriage return, U+001C to U+001F, U+0085) and the
spaces and line separators of all scripts; the zero-width space is not among them.
-/

namespace FlowGate.Text

def isBlank (c : Char) : Bool :=
  let n := c.toNat
  (0x9 ≤ n && n ≤ 0xd) || (0x1c ≤ n && n ≤ 0x20) || n == 0x85 || n == 0xa0 || n == 0x1680
    || (0x2000 ≤ n && n ≤ 0x200a) || n == 0x2028 || n == 0x2029 || n == 0x202f || n == 0x205f
    || n == 0x3000

def trim (cs : List Char) : List Char :=
  ((cs.dropWhile isBlank).reverse.dropWhile isBlank).reverse

/-- The text with every run of blanks replaced by one character. -/
def joinBlanks (mark : Char) : List Char → List Char
  | [] => []
  | [c] => [if isBlank c then mark else c]
  | c :: d :: rest =>
    if isBlank c then
      if isBlank d then joinBlanks mark (d :: rest) else mark :: joinBlanks mark (d :: rest)
    else c :: joinBlanks mark (d :: rest)

theorem joinBlanks_ne_nil {mark : Char} {cs : List Char} (h : cs ≠ []) :
    joinBlanks mark cs ≠ [] := by
  fun_induction joinBlanks mark cs
  case case1 => exact absurd rfl h
  case case3 ih => exact ih (List.cons_ne_nil _ _)
  all_goals exact List.cons_ne_nil _ _

end FlowGate.Text
