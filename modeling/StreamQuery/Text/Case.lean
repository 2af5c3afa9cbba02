import StreamQuery.Text.CaseData

/-!
# Upper and lower case

Full default case conversion: a character may become several, and a capital sigma at the end of a
word becomes the final form.
-/

namespace StreamQuery.Text

/-- The mapped characters of `c`, from the tables for the characters outside ASCII. -/
def mapCase (expansions : List (Nat × List Nat)) (runs : List CaseRun) (c : Char) : List Char :=
  match expansions.lookup c.toNat with
  | some codes => codes.map Char.ofNat
  | none =>
    match runs.find? (·.contains c.toNat) with
    | some run => [Char.ofNat (c.toNat + run.shift).toNat]
    | none => [c]

def upperChar (c : Char) : List Char :=
  if c.toNat < 128 then [c.toUpper] else mapCase upperExpansions upperRuns c

def lowerChar (c : Char) : List Char :=
  if c.toNat < 128 then [c.toLower] else mapCase lowerExpansions lowerRuns c

def isCaseIgnorable (c : Char) : Bool :=
  if c.toNat < 128 then c.toNat ∈ [0x27, 0x2E, 0x3A, 0x5E, 0x60]
  else caseIgnorableRanges.any (·.contains c.toNat)

def isCased (c : Char) : Bool :=
  if c.toNat < 128 then c.isAlpha else casedRanges.any (·.contains c.toNat)

/-- Whether the nearest character that is not looked through is a letter with case. -/
def reachesCased (neighbours : List Char) : Bool :=
  match neighbours.dropWhile isCaseIgnorable with
  | c :: _ => isCased c
  | [] => false

/-- Lower case of the characters after `before`, which is given nearest first. -/
def lowerFrom (before : List Char) : List Char → List Char
  | [] => []
  | c :: after =>
    let lowered :=
      if c = 'Σ' then
        if reachesCased before && !reachesCased after then ['ς'] else ['σ']
      else lowerChar c
    lowered ++ lowerFrom (c :: before) after

def upper (text : String) : String :=
  String.ofList (text.toList.flatMap upperChar)

def lower (text : String) : String :=
  String.ofList (lowerFrom [] text.toList)

end StreamQuery.Text
