import MarketAlerts.Text.CaseTable

/-!
Full lower-casing of text. A capital sigma that closes a word becomes the final small sigma, and
the capital I with a dot becomes two characters; every other character is mapped on its own.
-/
namespace MarketAlerts.Text

def lowerChar (c : Char) : List Char :=
  if c.toNat = 0x130 then ['i', Char.ofNat 0x307]
  else match caseRuns.find? (·.covers c.toNat) with
    | some run => [Char.ofNat (c.toNat + run.distance).toNat]
    | none => [c]

/-- Whether the nearest character that counts has case; the list starts at the sigma's neighbour. -/
def meetsCased (neighbours : List Char) : Bool :=
  match neighbours.dropWhile (inRanges skippedRanges ·.toNat) with
  | c :: _ => inRanges casedRanges c.toNat
  | [] => false

/-- The small form of a sigma between the reversed text before it and the text after it. -/
def lowerSigma (before after : List Char) : Char :=
  if meetsCased before && !meetsCased after then Char.ofNat 0x3C2 else Char.ofNat 0x3C3

def lowerFrom (before : List Char) : List Char → List Char
  | [] => []
  | c :: rest =>
    (if c.toNat = 0x3A3 then [lowerSigma before rest] else lowerChar c)
      ++ lowerFrom (c :: before) rest

def lower (text : String) : String :=
  String.ofList (lowerFrom [] text.toList)

/-- Whether the first text occurs in the second. -/
def occursIn (part : List Char) : List Char → Bool
  | [] => part.isEmpty
  | c :: rest => part.isPrefixOf (c :: rest) || occursIn part rest

end MarketAlerts.Text
