import LogIngest.Text.Property
import LogIngest.Text.Script

/-!
The classes of characters by which a text is cut into clusters, words and sentences, as Unicode derives them from
other properties, and the names that they go by.
-/

namespace LogIngest.CharSet

/-- The characters of a script. -/
def ofScript (name : String) : CharSet :=
  (script? name).getD empty

def carriageReturn : CharSet := single '\r'

def lineFeed : CharSet := single '\n'

/-- The joiner of two characters to one. -/
def zeroWidthJoiner : CharSet := interval 0x200D 0x200D

/-! ### Clusters -/

/-- Characters that go on with a cluster. -/
def clusterExtend : CharSet :=
  (graphemeExtend.union emojiModifier).diff zeroWidthJoiner

/-- Marks that stand before what they apply to, and letters that do so in scripts of India. -/
def clusterPrepend : CharSet :=
  prependedMark.union ⟨#[
    0xD4E, 0xD4F, 0x111C2, 0x111C4, 0x113D1, 0x113D2, 0x1193F, 0x11940, 0x11941, 0x11942, 0x11A3A,
    0x11A3B, 0x11A84, 0x11A8A, 0x11D46, 0x11D47, 0x11F02, 0x11F03]⟩

/-- Characters that are a cluster each. -/
def clusterControl : CharSet :=
  (unions [control, format, lineSeparator, paragraphSeparator, unassigned.inter defaultIgnorable]).diff
    (unions [carriageReturn, lineFeed, joinControl, prependedMark, clusterExtend])

/-- Marks behind a character that belong to its cluster, with two vowels. Some marks of scripts of Southeast Asia
do not. -/
def clusterSpacing : CharSet :=
  (spacingMark.diff (clusterExtend.union ⟨#[
    0x102B, 0x102D, 0x1038, 0x1039, 0x1062, 0x1065, 0x1067, 0x106E, 0x1083, 0x1084, 0x1087, 0x108D,
    0x108F, 0x1090, 0x109A, 0x109D, 0x1A61, 0x1A62, 0x1A63, 0x1A65, 0xAA7B, 0xAA7C, 0xAA7D, 0xAA7E,
    0x11720, 0x11722]⟩)).union ⟨#[0xE33, 0xE34, 0xEB3, 0xEB4]⟩

/-- Consonants at the starts of syllables of Hangul. -/
def leadingJamo : CharSet where
  edges := #[0x1100, 0x1160, 0xA960, 0xA97D]

/-- Vowels of such syllables, and those of a script that is written alike. -/
def vowelJamo : CharSet where
  edges := #[0x1160, 0x11A8, 0xD7B0, 0xD7C7, 0x16D63, 0x16D64, 0x16D67, 0x16D6B]

/-- Consonants at the ends of such syllables. -/
def trailingJamo : CharSet where
  edges := #[0x11A8, 0x1200, 0xD7CB, 0xD7FC]

/-- Syllables without a consonant at the end: every one of 28. -/
def openSyllable : CharSet where
  edges := ((List.range 399).flatMap fun n => [0xAC00 + 28 * n, 0xAC01 + 28 * n]).toArray

/-- Syllables with a consonant at the end. -/
def closedSyllable : CharSet :=
  (interval 0xAC00 0xD7A3).diff openSyllable

/-! ### Words -/

/-- Characters that go on with a word or a sentence. -/
def extending : CharSet :=
  graphemeExtend.union spacingMark

/-- The characters of Katakana, with some that are used with them. -/
def katakana : CharSet :=
  (unions [ofScript "katakana",
    ⟨#[0x3031, 0x3036, 0x309B, 0x309D, 0x30A0, 0x30A1, 0x30FC, 0x30FD, 0xFF70, 0xFF71]⟩]).diff extending

def hebrewLetter : CharSet :=
  (ofScript "hebrew").inter otherLetter

/-- The characters of scripts that put no spaces between words. -/
def unspaced : CharSet :=
  unions (["ahom", "khmer", "lao", "myanmar", "newtailue", "taile", "taitham", "taiviet", "thai"].map ofScript)

/-- Letters of the scripts in which words are told by their letters. -/
def wordLetter : CharSet :=
  (alphabetic.union ⟨#[
    0x2C2, 0x2C6, 0x2D2, 0x2D8, 0x2DE, 0x2E0, 0x2E5, 0x2EC, 0x2ED, 0x2EE, 0x2EF, 0x300, 0x55A, 0x55D,
    0x55E, 0x55F, 0x58A, 0x58B, 0x5F3, 0x5F4, 0x70F, 0x710, 0xA708, 0xA717, 0xA720, 0xA722, 0xA789,
    0xA78B, 0xAB5B, 0xAB5C]⟩).diff
      (unions [ideographic, katakana, hebrewLetter, ofScript "hiragana", extending, unspaced])

/-- Digits, and the marks that stand before numbers. -/
def numeric : CharSet :=
  (unions [decimalDigit, single '٫', prependedMark]).diff (interval 0x70F 0x70F)

/-- Spaces at which a word may end a line. -/
def wordSpace : CharSet :=
  spaceSeparator.diff ⟨#[0xA0, 0xA1, 0x2007, 0x2008, 0x202F, 0x2030]⟩

/-! ### Sentences -/

/-- Letters of Georgian without case. -/
def mkhedruli : CharSet where
  edges := #[0x10D0, 0x10FB, 0x10FD, 0x1100]

/-- Letters that a sentence does not start with. -/
def sentenceLower : CharSet :=
  lowercase.diff (graphemeExtend.union mkhedruli)

/-- Letters that a sentence may start with. -/
def sentenceUpper : CharSet :=
  (titlecaseLetter.union uppercase).diff ⟨#[0x1C90, 0x1CBB, 0x1CBD, 0x1CC0]⟩

/-- Letters without case. -/
def sentenceLetter : CharSet :=
  (unions [alphabetic, single '׳', mkhedruli]).diff
    (unions [sentenceLower, sentenceUpper, extending, zeroWidthJoiner])

/-- Full stops. -/
def fullStop : CharSet where
  edges := #[0x2E, 0x2F, 0x2024, 0x2025, 0xFE52, 0xFE53, 0xFF0E, 0xFF0F]

/-- Brackets and quotation marks. -/
def sentenceClose : CharSet :=
  unions [openPunctuation, closePunctuation, initialPunctuation, finalPunctuation,
    ⟨#[0x22, 0x23, 0x27, 0x28, 0x275B, 0x2761, 0x2E00, 0x2E02, 0x2E06, 0x2E09, 0x2E0B, 0x2E0C, 0x1F676,
      0x1F679]⟩]

end CharSet

/-- The classes of characters that clusters are told by. -/
def clusterBreaks : List NamedSet := [
  ⟨["control", "cn"], .clusterControl⟩,
  ⟨["cr"], .carriageReturn⟩,
  ⟨["extend", "ex"], .clusterExtend⟩,
  ⟨["l"], .leadingJamo⟩,
  ⟨["lf"], .lineFeed⟩,
  ⟨["lv"], .openSyllable⟩,
  ⟨["lvt"], .closedSyllable⟩,
  ⟨["prepend", "pp"], .clusterPrepend⟩,
  ⟨["regionalindicator", "ri"], .regionalIndicator⟩,
  ⟨["spacingmark", "sm"], .clusterSpacing⟩,
  ⟨["t"], .trailingJamo⟩,
  ⟨["v"], .vowelJamo⟩,
  ⟨["zwj"], .zeroWidthJoiner⟩]

/-- The classes of characters that words are told by. -/
def wordBreaks : List NamedSet := [
  ⟨["aletter", "le"], .wordLetter⟩,
  ⟨["cr"], .carriageReturn⟩,
  ⟨["doublequote", "dq"], .single '"'⟩,
  ⟨["extend"], (CharSet.extending.union .emojiModifier).diff .zeroWidthJoiner⟩,
  ⟨["extendnumlet", "ex"], .union .connector (.interval 0x202F 0x202F)⟩,
  ⟨["format", "fo"],
    CharSet.format.diff (.unions [.interval 0x200B 0x200D, .prependedMark, .extending])⟩,
  ⟨["hebrewletter", "hl"], .hebrewLetter⟩,
  ⟨["katakana", "ka"], .katakana⟩,
  ⟨["lf"], .lineFeed⟩,
  ⟨["midletter", "ml"], ⟨#[
    0x3A, 0x3B, 0xB7, 0xB8, 0x387, 0x388, 0x55F, 0x560, 0x5F4, 0x5F5, 0x2027, 0x2028, 0xFE13, 0xFE14,
    0xFE55, 0xFE56, 0xFF1A, 0xFF1B]⟩⟩,
  ⟨["midnum", "mn"], ⟨#[
    0x2C, 0x2D, 0x3B, 0x3C, 0x37E, 0x37F, 0x589, 0x58A, 0x60C, 0x60E, 0x66C, 0x66D, 0x7F8, 0x7F9,
    0x2044, 0x2045, 0xFE10, 0xFE11, 0xFE14, 0xFE15, 0xFE50, 0xFE51, 0xFE54, 0xFE55, 0xFF0C, 0xFF0D,
    0xFF1B, 0xFF1C]⟩⟩,
  ⟨["midnumlet", "mb"], ⟨#[
    0x2E, 0x2F, 0x2018, 0x201A, 0x2024, 0x2025, 0xFE52, 0xFE53, 0xFF07, 0xFF08, 0xFF0E, 0xFF0F]⟩⟩,
  ⟨["newline", "nl"], ⟨#[0xB, 0xD, 0x85, 0x86, 0x2028, 0x202A]⟩⟩,
  ⟨["numeric", "nu"], .numeric⟩,
  ⟨["regionalindicator", "ri"], .regionalIndicator⟩,
  ⟨["singlequote", "sq"], .single '\''⟩,
  ⟨["wsegspace"], .wordSpace⟩,
  ⟨["zwj"], .zeroWidthJoiner⟩]

/-- The classes of characters that sentences are told by. -/
def sentenceBreaks : List NamedSet := [
  ⟨["aterm", "at"], .fullStop⟩,
  ⟨["cr"], .carriageReturn⟩,
  ⟨["close", "cl"], .sentenceClose⟩,
  ⟨["extend", "ex"], .union .extending .zeroWidthJoiner⟩,
  ⟨["format", "fo"], CharSet.format.diff (.unions [.joinControl, .prependedMark, .extending])⟩,
  ⟨["lf"], .lineFeed⟩,
  ⟨["lower", "lo"], .sentenceLower⟩,
  ⟨["numeric", "nu"], .union .numeric (.single '٬')⟩,
  ⟨["oletter", "le"], .sentenceLetter⟩,
  ⟨["scontinue", "sc"], ⟨#[
    0x2C, 0x2E, 0x3A, 0x3C, 0x37E, 0x37F, 0x55D, 0x55E, 0x60C, 0x60E, 0x7F8, 0x7F9, 0x1802, 0x1803,
    0x1808, 0x1809, 0x2013, 0x2015, 0x3001, 0x3002, 0xFE10, 0xFE12, 0xFE13, 0xFE15, 0xFE31, 0xFE33,
    0xFE50, 0xFE52, 0xFE54, 0xFE56, 0xFE58, 0xFE59, 0xFE63, 0xFE64, 0xFF0C, 0xFF0E, 0xFF1A, 0xFF1C,
    0xFF64, 0xFF65]⟩⟩,
  ⟨["sep", "se"], ⟨#[0x85, 0x86, 0x2028, 0x202A]⟩⟩,
  ⟨["sp"], CharSet.whiteSpace.diff ⟨#[0xA, 0xB, 0xD, 0xE, 0x85, 0x86, 0x2028, 0x202A]⟩⟩,
  ⟨["sterm", "st"], CharSet.sentenceTerminal.diff .fullStop⟩,
  ⟨["upper", "up"], .sentenceUpper⟩]

end LogIngest
