import CxlFirmware.Text.Unicode.Property
import CxlFirmware.Text.Unicode.Script

/-!
# Segmentation

The classes of characters by which Unicode 16 divides a text into grapheme clusters,
words and sentences.  They are derived from properties, categories and scripts, with some
exceptions that are listed here.
-/

namespace CxlFirmware.Text.Unicode

/-! ## Shared classes -/

/-- The carriage return. -/
def carriageReturn : CharRule := .table "D"

/-- The line feed. -/
def lineFeed : CharRule := .table "A"

/-- The joiner of characters without a space between them. -/
def joiner : CharRule := .table "200D"

/-- The digits in the widest sense. -/
def digits : CharRule :=
  .union (Category.rule .decimalNumber) (.table "600-605 66B 6DD 890-891 8E2 110BD 110CD")

/-! ## Grapheme clusters -/

/-- The characters that extend the cluster before them. -/
def clusterExtend : CharRule := .diff (.union graphemeExtend emojiModifier) joiner

/-- The first, the middle and the last parts of Korean syllables. -/
def leadingJamo : CharRule := .table "1100-115F A960-A97C"

@[inherit_doc leadingJamo]
def vowelJamo : CharRule := .table "1160-11A7 D7B0-D7C6 16D63 16D67-16D6A"

@[inherit_doc leadingJamo]
def trailingJamo : CharRule := .table "11A8-11FF D7CB-D7FB"

/-- The Korean syllables without a last part. -/
def openSyllable : CharRule := .table "AC00-D788/1C"

/-- The controls that break clusters. -/
def clusterControl : CharRule :=
  .diff
    (.anyOf [ofCategories [.lineSeparator, .paragraphSeparator, .control, .format],
      .table "2065 FFF0-FFF8 E0000 E0002-E001F E0080-E00FF E01F0-E0FFF"])
    (.anyOf [.table "A D 200C-200D", prependedConcatenationMark, clusterExtend])

/-- The marks that take up space and belong to the cluster before them. -/
def clusterSpacingMark : CharRule :=
  .union (.table "E33 EB3")
    (.diff (Category.rule .spacingMark) (.union clusterExtend
      (.table "102B-102C 1038 1062-1064 1067-106D 1083 1087-108C 108F 109A-109C 1A61
        1A63-1A64 AA7B AA7D 11720-11721")))

/-- The characters that belong to the cluster after them. -/
def clusterPrepend : CharRule :=
  .union prependedConcatenationMark
    (.table "D4E 111C2-111C3 113D1 1193F 11941 11A3A 11A84-11A89 11D46 11F02")

/-- The classes that divide a text into clusters. -/
def graphemeBreaks : List PropertyValue := [
  ⟨["CR"], carriageReturn⟩,
  ⟨["LF"], lineFeed⟩,
  ⟨["Control", "CN"], clusterControl⟩,
  ⟨["Extend", "EX"], clusterExtend⟩,
  ⟨["ZWJ"], joiner⟩,
  ⟨["Regional_Indicator", "RI"], regionalIndicator⟩,
  ⟨["Prepend", "PP"], clusterPrepend⟩,
  ⟨["SpacingMark", "SM"], clusterSpacingMark⟩,
  ⟨["L"], leadingJamo⟩,
  ⟨["V"], vowelJamo⟩,
  ⟨["T"], trailingJamo⟩,
  ⟨["LV"], openSyllable⟩,
  ⟨["LVT"], .diff (.table "AC00-D7A3") openSyllable⟩]

/-! ## Words -/

/-- The scripts that write no spaces between words. -/
def unspacedScripts : CharRule :=
  .anyOf (["Thai", "Lao", "Myanmar", "Khmer", "Tai_Le", "New_Tai_Lue", "Tai_Tham", "Tai_Viet",
    "Ahom"].map script)

/-- The characters that extend the word before them. -/
def wordExtend : CharRule :=
  .diff (.anyOf [graphemeExtend, emojiModifier, Category.rule .spacingMark]) joiner

/-- The characters of Japanese words. -/
def wordKatakana : CharRule :=
  .diff (.union (script "Katakana") (.table "3031-3035 309B-309C 30A0 30FC FF70")) wordExtend

/-- The letters of Hebrew words. -/
def wordHebrew : CharRule :=
  .diff (script "Hebrew") (.diff .everything (Category.rule .otherLetter))

/-- The letters of words between spaces. -/
def wordLetter : CharRule :=
  .union
    (.diff alphabetic (.anyOf [ideographic, unspacedScripts, script "Hiragana", wordKatakana,
      wordHebrew, wordExtend, digits]))
    (.table "2C2-2C5 2D2-2D7 2DE-2DF 2E5-2EB 2ED 2EF-2FF 55A-55C 55E 58A 5F3 70F A708-A716
      A720-A721 A789-A78A AB5B")

/-- The classes that divide a text into words. -/
def wordBreaks : List PropertyValue := [
  ⟨["CR"], carriageReturn⟩,
  ⟨["LF"], lineFeed⟩,
  ⟨["Newline", "NL"], .table "B-C 85 2028-2029"⟩,
  ⟨["Extend"], wordExtend⟩,
  ⟨["ZWJ"], joiner⟩,
  ⟨["Regional_Indicator", "RI"], regionalIndicator⟩,
  ⟨["Format", "FO"], .diff (Category.rule .format)
    (.anyOf [.table "200B-200D", prependedConcatenationMark, wordExtend])⟩,
  ⟨["Katakana", "KA"], wordKatakana⟩,
  ⟨["Hebrew_Letter", "HL"], wordHebrew⟩,
  ⟨["ALetter", "LE"], wordLetter⟩,
  ⟨["Single_Quote", "SQ"], .table "27"⟩,
  ⟨["Double_Quote", "DQ"], .table "22"⟩,
  ⟨["MidNumLet", "MB"], .table "2E 2018-2019 2024 FE52 FF07 FF0E"⟩,
  ⟨["MidLetter", "ML"], .table "3A B7 387 55F 5F4 2027 FE13 FE55 FF1A"⟩,
  ⟨["MidNum", "MN"],
    .table "2C 3B 37E 589 60C-60D 66C 7F8 2044 FE10 FE14 FE50 FE54 FF0C FF1B"⟩,
  ⟨["Numeric", "NU"], digits⟩,
  ⟨["ExtendNumLet", "EX"], .union (Category.rule .connectorPunctuation) (.table "202F")⟩,
  ⟨["WSegSpace"], .table "20 1680 2000-2006 2008-200A 205F 3000"⟩]

/-! ## Sentences -/

/-- The characters that extend the sentence part before them. -/
def sentenceExtend : CharRule :=
  .anyOf [graphemeExtend, Category.rule .spacingMark, joiner]

/-- The full stops that may stand inside of a sentence. -/
def sentenceStop : CharRule := .table "2E 2024 FE52 FF0E"

/-- The characters that end a sentence for certain. -/
def sentenceEnd : CharRule := .diff sentenceTerminal sentenceStop

/-- The lower-case letters of sentences.  Georgian ones tell nothing. -/
def sentenceLower : CharRule :=
  .diff lowercase (.union graphemeExtend (.table "10D0-10FA 10FD-10FF"))

/-- The upper-case letters of sentences.  Georgian ones tell nothing. -/
def sentenceUpper : CharRule :=
  .diff (.union uppercase (Category.rule .titlecaseLetter)) (.table "1C90-1CBA 1CBD-1CBF")

/-- The numbers of sentences. -/
def sentenceDigit : CharRule := .union digits (.table "66C")

/-- The classes that divide a text into sentences. -/
def sentenceBreaks : List PropertyValue := [
  ⟨["CR"], carriageReturn⟩,
  ⟨["LF"], lineFeed⟩,
  ⟨["Sep", "SE"], .table "85 2028-2029"⟩,
  ⟨["Extend", "EX"], sentenceExtend⟩,
  ⟨["Format", "FO"], .diff (Category.rule .format)
    (.union sentenceExtend prependedConcatenationMark)⟩,
  ⟨["Sp"], .diff whiteSpace (.table "A D 85 2028-2029")⟩,
  ⟨["Lower", "LO"], sentenceLower⟩,
  ⟨["Upper", "UP"], sentenceUpper⟩,
  ⟨["OLetter", "LE"], .diff (.union alphabetic (.table "5F3 70F"))
    (.anyOf [sentenceLower, sentenceUpper, sentenceExtend, sentenceDigit])⟩,
  ⟨["Numeric", "NU"], sentenceDigit⟩,
  ⟨["ATerm", "AT"], sentenceStop⟩,
  ⟨["STerm", "ST"], sentenceEnd⟩,
  ⟨["SContinue", "SC"],
    .table "2C-2D 3A-3B 37E 55D 60C-60D 7F8 1802 1808 2013-2014 3001 FE10-FE11 FE13-FE14
      FE31-FE32 FE50-FE51 FE54-FE55 FE58 FE63 FF0C-FF0D FF1A-FF1B FF64"⟩,
  ⟨["Close", "CL"], .diff
    (.union
      (ofCategories [.openPunctuation, .closePunctuation, .initialPunctuation,
        .finalPunctuation])
      (.table "22 27 275B-2760 2E00-2E01 2E06-2E08 2E0B 1F676-1F678"))
    (.union sentenceStop sentenceEnd)⟩]

end CxlFirmware.Text.Unicode
