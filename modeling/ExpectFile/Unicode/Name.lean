import ExpectFile.Text.Hex
import ExpectFile.Unicode.Name.Alias
import ExpectFile.Unicode.Name.BasicPlane
import ExpectFile.Unicode.Name.OtherPlanes

/-!
# Character names

Finding a character by its name or by a formal alias of it. Names are found in either case. The
syllables of Hangul and the unified ideographs have names that follow a formula; these are read by
the formula, in upper case only.

The other names are packed. A packed text lists names in the order of their characters. An entry
is a symbol that says how many characters the name shares with the name before it (`a` for none,
`b` for one, and so on along `shareSymbols`) and then the rest of the name. The character is the
one after the character before it, unless a code in parentheses stands in front. Line breaks mean
nothing.
-/

namespace ExpectFile.Unicode

open Text

/-! ## Packed names -/

/-- The symbols for zero, one, two, … shared characters. -/
def shareSymbols : List Char := "abcdefghijklmnopqrstuvwxyz!$%&*+,:;<=>?@^_".toList

/-- Whether the character belongs to a name; all others are marks of the packed form. -/
def isNameLetter (c : Char) : Bool :=
  c.isUpper || c.isDigit || c == ' ' || c == '-'

/-- Reads a packed text in search of a name. `gap` holds the digits read since an opening
parenthesis; `current` is the name under construction, last letter first, and `next` the code of
the entry after it. -/
def searchPacked (target : List Char) (gap : Option Nat) (next : Nat) (current : List Char) :
    List Char → Option Nat
  | [] => if current = target then some (next - 1) else none
  | c :: rest =>
    if c = '\n' then searchPacked target gap next current rest
    else match gap with
      | some n =>
        if c = ')' then searchPacked target none n current rest
        else searchPacked target (some (n * 16 + (digitValue? c).getD 0)) next current rest
      | none =>
        if isNameLetter c then searchPacked target none next (c :: current) rest
        else if current = target then some (next - 1)
        else if c = '(' then searchPacked target (some 0) next current rest
        else
          let shared := shareSymbols.idxOf c
          searchPacked target none (next + 1) (current.drop (current.length - shared)) rest

/-- The character of a name in a packed text; the name is given in upper case. -/
def findPacked (packed : String) (name : List Char) : Option Nat :=
  searchPacked name.reverse none 0 [] packed.toList

/-! ## Names by formula -/

/-- The letters that stand for the leading consonants of Hangul. -/
def hangulLeading : List String :=
  ["G", "GG", "N", "D", "DD", "R", "M", "B", "BB", "S", "SS", "", "J", "JJ", "C", "K", "T", "P",
   "H"]

/-- The letters that stand for the vowels of Hangul. -/
def hangulVowels : List String :=
  ["A", "AE", "YA", "YAE", "EO", "E", "YEO", "YE", "O", "WA", "WAE", "OE", "YO", "U", "WEO", "WE",
   "WI", "YU", "EU", "YI", "I"]

/-- The letters that stand for the trailing consonants of Hangul, none among them. -/
def hangulTrailing : List String :=
  ["", "G", "GG", "GS", "N", "NJ", "NH", "D", "L", "LG", "LM", "LB", "LS", "LT", "LP", "LH", "M",
   "B", "BS", "S", "SS", "NG", "J", "C", "K", "T", "P", "H"]

/-- The position of the longest of the given texts that begins `text`, and what follows it. -/
def longestPart (parts : List String) (text : List Char) : Option (Nat × List Char) :=
  let step := fun (best : Option (Nat × List Char)) (entry : String × Nat) =>
    if entry.1.toList.isPrefixOf text then
      let rest := text.drop entry.1.length
      match best with
      | some (_, shortest) => if rest.length < shortest.length then some (entry.2, rest) else best
      | none => some (entry.2, rest)
    else best
  parts.zipIdx.foldl step none

/-- The syllable whose letters follow the words `HANGUL SYLLABLE`. -/
def hangulNamed? (letters : List Char) : Option Nat := do
  let (leading, rest) ← longestPart hangulLeading letters
  let (vowel, rest) ← longestPart hangulVowels rest
  let (trailing, rest) ← longestPart hangulTrailing rest
  if rest.isEmpty then some (0xac00 + (leading * 21 + vowel) * 28 + trailing) else none

/-- The unified ideographs, as ranges of code points. -/
def ideographRanges : List (Nat × Nat) :=
  [(0x3400, 0x4dbf), (0x4e00, 0x9fff), (0x20000, 0x2a6df), (0x2a700, 0x2b738), (0x2b740, 0x2b81d),
   (0x2b820, 0x2cea1), (0x2ceb0, 0x2ebe0), (0x30000, 0x3134a)]

/-- The ideograph whose code, in four or five upper-case digits, ends its name. -/
def ideographNamed? (digits : List Char) : Option Nat :=
  let n := readDigits 16 digits
  if (digits.length = 4 ∨ digits.length = 5)
      ∧ digits.all (fun c => isDigitOf 16 c && !c.isLower)
      ∧ ideographRanges.any (fun range => range.1 ≤ n && n ≤ range.2)
  then some n else none

/-! ## All names -/

/-- The character of a name or alias. -/
def named? (name : List Char) : Option Char :=
  let syllable := "HANGUL SYLLABLE ".toList
  let ideograph := "CJK UNIFIED IDEOGRAPH-".toList
  let code :=
    if syllable.isPrefixOf name then hangulNamed? (name.drop syllable.length)
    else if ideograph.isPrefixOf name then ideographNamed? (name.drop ideograph.length)
    else
      let upper := name.map Char.toUpper
      if upper.all isNameLetter ∧ upper ≠ [] then
        ((findPacked basicPlaneNames upper).or (findPacked otherPlaneNames upper)).or
          (findPacked aliasNames upper)
      else none
  code.map Char.ofNat

end ExpectFile.Unicode
