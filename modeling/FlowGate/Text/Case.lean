import FlowGate.Text.Case.Table

/-!
# Letter case

Lower case is found letter by letter, but for the capital sigma: it becomes the final form where a
word ends, that is where a letter stands before it and none after it, marks left aside. Upper case
may turn one letter into several.
-/

namespace FlowGate.Text

private def within (ranges : List (Nat × Nat)) (c : Char) : Bool :=
  ranges.any fun (first, last) => first ≤ c.toNat && c.toNat ≤ last

private def shifted (runs : List CaseRun) (c : Char) : Char :=
  match runs.find? (·.covers c.toNat) with
  | some run => Char.ofNat (c.toNat + run.shift).toNat
  | none => c

/-- Whether the nearest character that is no mark is a letter with case. -/
def meetsLetter (cs : List Char) : Bool :=
  ((cs.dropWhile (within ignorableRanges)).head?.map (within casedRanges)).getD false

/-- The lower case of a character between the reversed text before it and the text after it. -/
def lowerChar (before : List Char) (c : Char) (after : List Char) : List Char :=
  if c.toNat < 0x80 then [c.toLower]
  else if c.toNat = 0x130 then ['i', Char.ofNat 0x307]
  else if c.toNat = 0x3a3 then
    [Char.ofNat (if meetsLetter before && !meetsLetter after then 0x3c2 else 0x3c3)]
  else [shifted lowerRuns c]

private def lowerFrom (before : List Char) : List Char → List Char
  | [] => []
  | c :: rest => lowerChar before c rest ++ lowerFrom (c :: before) rest

def lower (cs : List Char) : List Char := lowerFrom [] cs

theorem lower_ne_nil {cs : List Char} (h : cs ≠ []) : lower cs ≠ [] := by
  have hchar (before : List Char) (c : Char) (after : List Char) :
      lowerChar before c after ≠ [] := by
    unfold lowerChar
    split
    · nofun
    · split
      · nofun
      · split <;> nofun
  cases cs with
  | nil => exact absurd rfl h
  | cons c cs =>
    show lowerChar [] c cs ++ lowerFrom [c] cs ≠ []
    exact List.append_ne_nil_of_left_ne_nil (hchar [] c cs) _

def upperChar (c : Char) : List Char :=
  if c.toNat < 0x80 then [c.toUpper]
  else
    match upperLong.lookup c.toNat with
    | some codes => codes.map Char.ofNat
    | none => [shifted upperRuns c]

def upper (cs : List Char) : List Char := cs.flatMap upperChar

end FlowGate.Text
