import CallScript.Text.CharacterName.Table
import CallScript.Text.Pieces

/-! Characters by name. Ideographs are named by their codes and Korean syllables by their sounds, both in
capital letters; variation selectors have short names with a number; all other names are in tables, and
there capital and small letters are the same. -/
namespace CallScript.Text

def capitalHexDigit? (c : Char) : Option Nat :=
  if c.isDigit then some (c.toNat - 48)
  else if 'A' ≤ c && c ≤ 'F' then some (c.toNat - 55)
  else none

def capitalHexNumber? (digits : List Char) : Option Nat :=
  digits.foldlM (fun n c => (capitalHexDigit? c).map (16 * n + ·)) 0

def ideographRuns : List (Nat × Nat) := [
  (0x3400, 0x4DBF), (0x4E00, 0x9FFF), (0x20000, 0x2A6DF), (0x2A700, 0x2B738), (0x2B740, 0x2B81D),
  (0x2B820, 0x2CEA1), (0x2CEB0, 0x2EBE0), (0x30000, 0x3134A)]

def after? (beginning : String) (cs : List Char) : Option (List Char) :=
  if beginning.toList.isPrefixOf cs then some (cs.drop beginning.length) else none

def ideographNamed? (name : List Char) : Option Nat := do
  let digits ← after? "CJK UNIFIED IDEOGRAPH-" name
  let code ← capitalHexNumber? digits
  if (digits.length == 4 || digits.length == 5) && ideographRuns.any (fun run => run.1 ≤ code && code ≤ run.2) then
    some code
  else none

def leadSounds : List String := [
  "G", "GG", "N", "D", "DD", "R", "M", "B", "BB", "S", "SS", "", "J", "JJ", "C", "K", "T", "P", "H"]

def vowelSounds : List String := [
  "A", "AE", "YA", "YAE", "EO", "E", "YEO", "YE", "O", "WA", "WAE", "OE", "YO", "U", "WEO", "WE", "WI", "YU",
  "EU", "YI", "I"]

def tailSounds : List String := [
  "", "G", "GG", "GS", "N", "NJ", "NH", "D", "L", "LG", "LM", "LB", "LS", "LT", "LP", "LH", "M", "B", "BS", "S",
  "SS", "NG", "J", "C", "K", "T", "P", "H"]

def longestSound (sounds : List String) (cs : List Char) : Option (Nat × Nat) :=
  sounds.zipIdx.foldl (fun best (sound, n) =>
    if sound.toList.isPrefixOf cs && best.all (fun found => found.2 < sound.length) then some (n, sound.length)
    else best) none

def syllableNamed? (name : List Char) : Option Nat := do
  let cs ← after? "HANGUL SYLLABLE " name
  let (lead, width) ← longestSound leadSounds cs
  let cs := cs.drop width
  let (vowel, width) ← longestSound vowelSounds cs
  let cs := cs.drop width
  let (tail, width) ← longestSound tailSounds cs
  if (cs.drop width).isEmpty then some (0xAC00 + (lead * 21 + vowel) * 28 + tail) else none

def selectorNamed? (name : List Char) : Option Nat := do
  let digits ← after? "VS" name
  let n ← (String.ofList digits).toNat?
  if toString n == String.ofList digits && 1 ≤ n && n ≤ 256 then
    some (if n ≤ 16 then 0xFDFF + n else 0xE00EF + n)
  else none

def sharedCount (entry : List Char) : Nat :=
  (entry.take 2).foldl (fun n c => 10 * n + (c.toNat - 48)) 0

/-- The code of a name in a run, from the code and the name before its entries on. -/
def findInRun (wanted : List Char) (code : Nat) (before : List Char) : List (List Char) → Option Nat
  | [] => none
  | entry :: rest =>
      let name := before.take (sharedCount entry) ++ entry.drop 2
      if name == wanted then some code else findInRun wanted (code + 1) name rest

def runEntries (run : String) : List (List Char) := (pieces '\n' run.toList).flatMap (pieces '|')

def listedName? (wanted : List Char) : Option Nat :=
  nameRuns.findSome? (fun (code, run) => findInRun wanted code [] (runEntries run))

def otherName? (wanted : List Char) : Option Nat :=
  (otherNames.find? (fun entry => entry.1.toList == wanted)).map Prod.snd

def characterNamed? (name : String) : Option Char :=
  let cs := name.toList
  let capitals := cs.map Char.toUpper
  let code := ideographNamed? cs <|> syllableNamed? cs <|> selectorNamed? capitals <|> otherName? capitals <|>
    listedName? capitals
  code.map Char.ofNat

end CallScript.Text
