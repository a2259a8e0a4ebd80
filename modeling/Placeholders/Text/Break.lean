import Placeholders.Text.Property
import Placeholders.Text.Script

/-!
# Breaks

What a character does to the places where a text may be cut apart: into what a reader takes for one
character (`Break.ofGrapheme`), into words (`Break.ofWord`) and into sentences (`Break.ofSentence`).

* Each list names the classes of its kind, under their short and long names. The class of all other
  characters has no name.
* Most classes follow from the properties of a character; the few that do not are tables.
-/

namespace Placeholders.Text.Break

open Placeholders.Text.Category
open Placeholders.Text.Property

/-! ## 1. What several kinds share -/

/-- The carriage return. -/
def carriageReturn : CharSet := .range 0x0D 0x0D

/-- The line feed. -/
def lineFeed : CharSet := .range 0x0A 0x0A

/-- The joiner of zero width. -/
def joiner : CharSet := .range 0x200D 0x200D

/-- The characters counted to a script. -/
def ofScript (name : String) : CharSet :=
  match Script.all.find? fun s => s.names.contains name with
  | some s => s.strict
  | none => .nothing

/-- Figures of a number, the decimal signs of Arabic and what stands before a number among them. -/
def numeral : CharSet :=
  (CharSet.unions [decimalNumber, .ofText "66B 66C", concatenationMark]).minus (.range 0x70F 0x70F)

/-! ## 2. Graphemes -/

/-- What extends the character before it. -/
def extend : CharSet := graphemeExtend.union emojiModifier

/-- What goes together with the character after it. -/
def prepended : CharSet := concatenationMark.union (.ofText "
  D4E 111C2-111C3 113D1 1193F 11941 11A3A 11A84-11A89 11D46 11F02
  ")

/-- What may not be joined with anything. -/
def controls : CharSet :=
  (CharSet.unions [lineSeparator, paragraphSeparator, control, format,
    unassigned.inter defaultIgnorable]).minus
    (.unions [carriageReturn, lineFeed, .range 0x200C 0x200D, concatenationMark, extend])

/-- Marks of some width that follow their letter without extending it. -/
def spacing : CharSet :=
  (spacingMark.union (.ofText "E33 EB3")).minus (extend.union
    (.ofText "
    102B-102C 1038 1062-1064 1067-106D 1083 1087-108C 108F 109A-109C 1A61 1A63-1A64 AA7B AA7D
    11720-11721
    "))

/-- Hangul syllables without a final consonant. -/
def openSyllable : CharSet :=
  .ofCodes ((List.range 399).map fun i => 0xAC00 + 28 * i)

/-- The classes of graphemes. -/
def ofGrapheme : List (List String × CharSet) := [
  (["CN", "Control"], controls),
  (["CR"], carriageReturn),
  (["EX", "Extend"], extend),
  (["L"], .ofText "1100-115F A960-A97C"),
  (["LF"], lineFeed),
  (["LV"], openSyllable),
  (["LVT"], (CharSet.range 0xAC00 0xD7A3).minus openSyllable),
  (["PP", "Prepend"], prepended),
  (["RI", "Regional_Indicator"], regionalIndicator),
  (["SM", "SpacingMark"], spacing),
  (["T"], .ofText "11A8-11FF D7CB-D7FB"),
  (["V"], .ofText "1160-11A7 D7B0-D7C6 16D63 16D67-16D6A"),
  (["ZWJ"], joiner)]

/-! ## 3. Words -/

/-- What a word break looks past. -/
def wordExtend : CharSet := (CharSet.unions [graphemeExtend, spacingMark, emojiModifier]).minus joiner

/-- Hebrew letters. -/
def hebrewLetter : CharSet := (ofScript "Hebrew").inter otherLetter

/-- Katakana, and the signs that go with it. -/
def katakana : CharSet := (ofScript "Katakana").union (.ofText "3031-3035 309B-309C 30A0 30FC FF70")

/-- Letters of scripts that write words without blanks between them. -/
def unspacedLetter : CharSet := .ofText "
  E01-E3A E40-E46 E4D E81-E82 E84 E86-E8A E8C-EA3 EA5 EA7-EB9 EBB-EBD EC0-EC4 EC6 ECD EDC-EDF
  1000-1036 1038 103B-103F 1050-108F 109A-109D 1780-17B3 17B6-17C8 17D7 17DC 1950-196D 1970-1974
  1980-19AB 19B0-19C9 1A20-1A5E 1A61-1A74 1AA7 A9E0-A9EF A9FA-A9FE AA60-AA76 AA7A-AABE AAC0 AAC2
  AADB-AADD 11700-1171A 1171D-1172A 11740-11746
  "

/-- Letters of words. -/
def wordLetter : CharSet :=
  (alphabetic.union (.ofText "
    2C2-2C5 2D2-2D7 2DE-2DF 2E5-2EB 2ED 2EF-2FF 55A-55C 55E 58A 5F3 70F A708-A716 A720-A721
    A789-A78A AB5B
    ")).minus
    (.unions [ideographic, katakana, unspacedLetter, ofScript "Hiragana", wordExtend, hebrewLetter])

/-- The classes of words. -/
def ofWord : List (List String × CharSet) := [
  (["LE", "ALetter"], wordLetter),
  (["CR"], carriageReturn),
  (["DQ", "Double_Quote"], .range 0x22 0x22),
  (["Extend"], wordExtend),
  (["EX", "ExtendNumLet"], connectorPunctuation.union (.range 0x202F 0x202F)),
  (["FO", "Format"],
    format.minus (.unions [.range 0x200B 0x200D, wordExtend, concatenationMark])),
  (["HL", "Hebrew_Letter"], hebrewLetter),
  (["KA", "Katakana"], katakana),
  (["LF"], lineFeed),
  (["ML", "MidLetter"], .ofText "3A B7 387 55F 5F4 2027 FE13 FE55 FF1A"),
  (["MN", "MidNum"], .ofText "
    2C 3B 37E 589 60C-60D 66C 7F8 2044 FE10 FE14 FE50 FE54 FF0C FF1B
    "),
  (["MB", "MidNumLet"], .ofText "2E 2018-2019 2024 FE52 FF07 FF0E"),
  (["NL", "Newline"], .ofText "B-C 85 2028-2029"),
  (["NU", "Numeric"], numeral.minus (.range 0x66C 0x66C)),
  (["RI", "Regional_Indicator"], regionalIndicator),
  (["SQ", "Single_Quote"], .range 0x27 0x27),
  (["WSegSpace"], spaceSeparator.minus (.ofText "A0 2007 202F")),
  (["ZWJ"], joiner)]

/-! ## 4. Sentences -/

/-- What a sentence break looks past. -/
def sentenceExtend : CharSet := .unions [graphemeExtend, spacingMark, joiner]

/-- What separates paragraphs. -/
def paragraphEnd : CharSet := .ofText "85 2028-2029"

/-- Blanks within a paragraph. -/
def sentenceSpace : CharSet :=
  whiteSpace.minus (.unions [carriageReturn, lineFeed, paragraphEnd])

/-- Letters that no sentence begins with. -/
def sentenceLower : CharSet :=
  lowercase.minus (graphemeExtend.union (.ofText "10D0-10FA 10FD-10FF"))

/-- Letters that a sentence begins with. -/
def sentenceUpper : CharSet :=
  (uppercase.union titlecaseLetter).minus (.ofText "1C90-1CBA 1CBD-1CBF")

/-- Full stops, which need not end a sentence. -/
def fullStop : CharSet := .ofText "2E 2024 FE52 FF0E"

/-- The classes of sentences. -/
def ofSentence : List (List String × CharSet) := [
  (["AT", "ATerm"], fullStop),
  (["CL", "Close"],
    (CharSet.unions [openPunctuation, closePunctuation, initialPunctuation, finalPunctuation,
      .ofText "22 27 275B-2760 2E00-2E01 2E06-2E08 2E0B 1F676-1F678"]).minus (fullStop.union sentenceTerminal)),
  (["CR"], carriageReturn),
  (["EX", "Extend"], sentenceExtend),
  (["FO", "Format"], format.minus (.unions [.range 0x200C 0x200D, sentenceExtend, numeral])),
  (["LF"], lineFeed),
  (["LO", "Lower"], sentenceLower),
  (["NU", "Numeric"], numeral),
  (["LE", "OLetter"],
    (alphabetic.union (.range 0x5F3 0x5F3)).minus
      (.unions [sentenceLower, sentenceUpper, sentenceExtend])),
  (["SC", "SContinue"],
    .ofText "
    2C-2D 3A-3B 37E 55D 60C-60D 7F8 1802 1808 2013-2014 3001 FE10-FE11 FE13-FE14 FE31-FE32 FE50-FE51
    FE54-FE55 FE58 FE63 FF0C-FF0D FF1A-FF1B FF64
    "),
  (["SE", "Sep"], paragraphEnd),
  (["SP", "Sp"], sentenceSpace),
  (["ST", "STerm"], sentenceTerminal.minus fullStop),
  (["UP", "Upper"], sentenceUpper)]

end Placeholders.Text.Break
