import Loadout.Text.LetterCase.Table

/-! # Letter case

Upper and lower form of a text.  A letter may turn into several characters, and a capital sigma is
lowered to its final form at the end of a word.
-/

namespace Loadout.Text

/-- The letter that the runs move `c` to, or `c` itself. -/
def CaseRun.move (runs : List CaseRun) (c : Char) : Char :=
  match runs.find? fun r =>
      r.first ≤ c.toNat && c.toNat ≤ r.last && (c.toNat - r.first) % r.stride == 0 with
  | some r => Char.ofNat (c.toNat + r.distance).toNat
  | none => c

/-- The form of one character under the given tables. -/
def changeCase (expansions : List (Nat × List Nat)) (runs : List CaseRun) (c : Char) : List Char :=
  match expansions.find? fun e => e.1 == c.toNat with
  | some e => e.2.map Char.ofNat
  | none => [CaseRun.move runs c]

def capitalSigma : Char := Char.ofNat 0x3a3

/-- Whether the nearest character that is not skipped has a case. -/
def nextToCased (cs : List Char) : Bool :=
  match cs.dropWhile (inAny caseIgnorableRanges) with
  | [] => false
  | c :: _ => inAny casedRanges c

/-- The lower form of the rest of a text, given what precedes it, nearest first. -/
def lowerFrom : List Char → List Char → List Char
  | _, [] => []
  | before, c :: cs =>
    let form :=
      if c = capitalSigma then
        [Char.ofNat (if nextToCased before && !nextToCased cs then 0x3c2 else 0x3c3)]
      else changeCase lowerExpansions lowerRuns c
    form ++ lowerFrom (c :: before) cs

/-- The lower form of a text. -/
def lower (cs : List Char) : List Char :=
  lowerFrom [] cs

/-- The upper form of a text. -/
def upper (cs : List Char) : List Char :=
  cs.flatMap (changeCase upperExpansions upperRuns)

end Loadout.Text
