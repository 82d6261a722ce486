import AmqpClient.Text.CaseTable

/-!
# Lower case

Lower-casing by the full Unicode mapping. Two characters are special: a capital
I with a dot becomes two characters, and a capital sigma has another form at the
end of a word.
-/

set_option autoImplicit false

namespace AmqpClient.Text

def inRanges (ranges : List (Nat × Nat)) (char : Char) : Bool :=
  ranges.any fun range => range.1 ≤ char.toNat && char.toNat ≤ range.2

def isCased (char : Char) : Bool :=
  inRanges casedRanges char

/-- A character that does not end the search for a cased neighbour. -/
def isCaseIgnorable (char : Char) : Bool :=
  inRanges caseIgnorableRanges char

def CaseRun.maps (run : CaseRun) (code : Nat) : Bool :=
  run.first ≤ code && code ≤ run.last && (code - run.first) % run.step == 0

/-- The lower-case form of one character, taken without its neighbours. -/
def lowerChar (char : Char) : Char :=
  match lowercaseRuns.find? (·.maps char.toNat) with
  | some run => Char.ofNat (char.toNat + run.shift).toNat
  | none => char

def nextIsCased (chars : List Char) : Bool :=
  match chars.dropWhile isCaseIgnorable with
  | char :: _ => isCased char
  | [] => false

/-- Lower-cases the rest of a text, given what precedes it, nearest first. -/
def lowerFrom (before : List Char) : List Char → List Char
  | [] => []
  | char :: after =>
    let lowered :=
      if char = 'Σ' then
        if nextIsCased before && !nextIsCased after then ['ς'] else ['σ']
      else if char = 'İ' then ['i', '\u0307']
      else if char.toNat < 0x80 then [char.toLower]
      else [lowerChar char]
    lowered ++ lowerFrom (char :: before) after

def lowercase (text : String) : String :=
  String.ofList (lowerFrom [] text.toList)

end AmqpClient.Text
