import LogStyle.Text.CaseTable

/-! # Upper and lower case

Case mapping of whole texts. A character can become several, and a capital sigma becomes a final sigma
at the end of a word: after a cased letter and before none, case-ignorable characters set aside.
-/

namespace LogStyle

namespace CaseRun

/-- Where a table of runs takes a character. -/
def move (runs : List CaseRun) (c : CodePoint) : CodePoint :=
  match runs.find? (·.covers c.toNat) with
  | some r => .ofNat (c.toNat + r.shift).toNat
  | none => c

end CaseRun

/-- Where a pair of case tables takes a character. -/
def caseMap (runs : List CaseRun) (expansions : List (Nat × List Nat)) (c : CodePoint) : Text :=
  match expansions.lookup c.toNat with
  | some codes => codes.map CodePoint.ofNat
  | none => [CaseRun.move runs c]

/-- Whether the nearest character that is not case-ignorable is a cased letter. -/
def nextIsCased (t : Text) : Bool :=
  match t.dropWhile (caseIgnorableRanges.has ·.toNat) with
  | c :: _ => casedRanges.has c.toNat
  | [] => false

namespace Text

/-- A text in upper case. -/
def upper (t : Text) : Text :=
  t.flatMap (caseMap upperRuns upperExpansions)

/-- Lower-cases a text that follows `passed`, which is given last character first. -/
def lowerAfter (passed : Text) : Text → Text
  | [] => []
  | c :: rest =>
    let lowered : Text :=
      if c = 'Σ' then
        if nextIsCased passed && !nextIsCased rest then ['ς'] else ['σ']
      else caseMap lowerRuns lowerExpansions c
    lowered ++ lowerAfter (c :: passed) rest

/-- A text in lower case. -/
def lower (t : Text) : Text :=
  lowerAfter [] t

end Text

end LogStyle
