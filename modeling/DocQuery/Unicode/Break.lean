import DocQuery.Unicode.Property
import DocQuery.Unicode.Script

/-!
Classes of code points by the part that they play where text is broken: into the characters that a
reader sees, into words and into sentences.

* `Break.cluster?`, `Break.word?`, `Break.sentence?`: the class with a name.

Each class is given by categories, scripts and listed properties, and by the few code points that
these leave out or have too many.
-/

namespace DocQuery.Unicode.Break

/-! ### What the breaks have in common -/

/-- The code points of some scripts together. -/
def ofScripts (names : List String) : CodePointSet :=
  .ofRanges (names.flatMap fun name => ((Script.set? name).getD .empty).ranges)

/-- The joiner of zero width. -/
def joiner : CodePointSet := .ofText "200D"

/-- What a mark, even one that takes room, does not break away from. -/
def extensions : CodePointSet :=
  (Property.graphemeExtend.union (Category.ofNames ["Mc"])).difference joiner

/-- Signs that precede a number. -/
def numberSigns : CodePointSet :=
  (Property.listed "Prepended_Concatenation_Mark").difference (.ofText "70F")

/-- Digits, the Arabic decimal separator and signs that precede a number. -/
def numerals : CodePointSet :=
  ((Category.ofNames ["Nd"]).union (.ofText "66B")).union numberSigns

/-- Controls within text that are neither joiners nor marks nor parts of numbers. -/
def formats : CodePointSet :=
  (Category.ofNames ["Cf"]).difference Property.graphemeExtend
    |>.difference joiner |>.difference numberSigns

/-- The class under a spelling of its name. -/
def find? (classes : List (List String × CodePointSet)) (name : String) : Option CodePointSet :=
  (classes.find? fun (spellings, _) => spellings.contains name).map (·.2)

/-! ### Characters that a reader sees -/

/-- The first consonants of Hangul syllables. -/
def leads : CodePointSet := .ofText "1100-115F A960-A97C"

/-- The vowels of Hangul syllables, and others that join in the same way. -/
def vowels : CodePointSet := .ofText "1160-11A7 D7B0-D7C6 16D63 16D67-16D6A"

/-- The last consonants of Hangul syllables. -/
def trails : CodePointSet := .ofText "11A8-11FF D7CB-D7FB"

/-- All Hangul syllables. -/
def syllables : CodePointSet := .ofText "AC00-D7A3"

/-- The Hangul syllables without a last consonant. -/
def openSyllables : CodePointSet :=
  .ofRanges ((List.range 399).map fun n => (0xAC00 + 28 * n, 0xAC00 + 28 * n))

/-- Marks and modifiers that belong to the character before them. -/
def clusterExtend : CodePointSet :=
  (Property.graphemeExtend.union (Property.listed "Emoji_Modifier")).difference joiner

/-- Signs that belong to the character after them. -/
def prepended : CodePointSet :=
  (Property.listed "Prepended_Concatenation_Mark").union
    (.ofText "D4E 111C2-111C3 113D1 1193F 11941 11A3A 11A84-11A89 11D46 11F02")

/-- Controls, line and paragraph separators, and what is to be ignored if it is ever assigned. -/
def controls : CodePointSet :=
  (Category.ofNames ["Cc", "Cf", "Zl", "Zp"]).union
      (Category.unassigned.intersection Property.defaultIgnorable)
    |>.difference (.ofText "A D") |>.difference joiner
    |>.difference clusterExtend |>.difference prepended

/-- Marks that take room and belong to the character before them. -/
def spacingMarks : CodePointSet :=
  (Category.ofNames ["Mc"]).union (.ofText "E33 EB3")
    |>.difference clusterExtend
    |>.difference (.ofText "
      102B-102C 1038 1062-1064 1067-106D 1083 1087-108C 108F 109A-109C 1A61 1A63-1A64 AA7B AA7D
      11720-11721")

/-- The classes for characters that a reader sees. -/
def clusters : List (List String × CodePointSet) := [
  (["cr"], .ofText "D"),
  (["lf"], .ofText "A"),
  (["cn", "control"], controls),
  (["ex", "extend"], clusterExtend),
  (["zwj"], joiner),
  (["ri", "regionalindicator"], Property.listed "Regional_Indicator"),
  (["pp", "prepend"], prepended),
  (["sm", "spacingmark"], spacingMarks),
  (["l"], leads),
  (["v"], vowels),
  (["t"], trails),
  (["lv"], openSyllables),
  (["lvt"], syllables.difference openSyllables)]

/-- The class for characters that a reader sees with a name. -/
def cluster? (name : String) : Option CodePointSet := find? clusters name

/-! ### Words -/

/-- Marks, modifiers and joiners other than the one of zero width. -/
def wordExtend : CodePointSet := extensions.union (Property.listed "Emoji_Modifier")

/-- Katakana and the marks that are used with it. -/
def katakana : CodePointSet :=
  (ofScripts ["Katakana"]).union (.ofText "3031-3035 309B-309C 30A0 30FC FF70")

/-- The letters of the Hebrew alphabet. -/
def hebrewLetters : CodePointSet :=
  (ofScripts ["Hebrew"]).intersection (Category.ofNames ["Lo"])

/-- Letters of alphabets and signs that are used like letters; scripts that put no blanks between
words are left out. -/
def wordLetters : CodePointSet :=
  Property.alphabetic.union
      (.ofText "
        2C2-2C5 2D2-2D7 2DE-2DF 2E5-2EB 2ED 2EF-2FF 55A-55C 55E 58A 5F3 70F A708-A716 A720-A721
        A789-A78A AB5B")
    |>.difference (Property.listed "Ideographic")
    |>.difference (ofScripts ["Ahom", "Hiragana", "Khmer", "Lao", "Myanmar", "New_Tai_Lue",
      "Tai_Le", "Tai_Tham", "Tai_Viet", "Thai"])
    |>.difference katakana |>.difference hebrewLetters |>.difference wordExtend

/-- The classes for words. -/
def words : List (List String × CodePointSet) := [
  (["cr"], .ofText "D"),
  (["lf"], .ofText "A"),
  (["nl", "newline"], .ofText "B-C 85 2028-2029"),
  (["extend"], wordExtend),
  (["zwj"], joiner),
  (["ri", "regionalindicator"], Property.listed "Regional_Indicator"),
  (["fo", "format"], formats.difference (.ofText "70F 200B")),
  (["ka", "katakana"], katakana),
  (["hl", "hebrewletter"], hebrewLetters),
  (["le", "aletter"], wordLetters),
  (["sq", "singlequote"], .ofText "27"),
  (["dq", "doublequote"], .ofText "22"),
  (["mb", "midnumlet"], .ofText "2E 2018-2019 2024 FE52 FF07 FF0E"),
  (["ml", "midletter"], .ofText "3A B7 387 55F 5F4 2027 FE13 FE55 FF1A"),
  (["mn", "midnum"], .ofText "
    2C 3B 37E 589 60C-60D 66C 7F8 2044 FE10 FE14 FE50 FE54 FF0C FF1B"),
  (["nu", "numeric"], numerals),
  (["ex", "extendnumlet"], (Category.ofNames ["Pc"]).union (.ofText "202F")),
  (["wsegspace"], (Category.ofNames ["Zs"]).difference (.ofText "A0 2007 202F"))]

/-- The class for words with a name. -/
def word? (name : String) : Option CodePointSet := find? words name

/-! ### Sentences -/

/-- Separators of lines and paragraphs. -/
def separators : CodePointSet := .ofText "85 2028-2029"

/-- Small letters, except those that start no sentence in either case. -/
def sentenceLower : CodePointSet :=
  Property.lowercase.difference Property.graphemeExtend
    |>.difference (.ofText "10D0-10FA 10FD-10FF")

/-- Capital letters and title letters, except those that start no sentence in either case. -/
def sentenceUpper : CodePointSet :=
  (Property.uppercase.union (Category.ofNames ["Lt"])).difference (.ofText "1C90-1CBA 1CBD-1CBF")

/-- Full stops, which may also mark an abbreviation. -/
def fullStops : CodePointSet := .ofText "2E 2024 FE52 FF0E"

/-- Marks that end a sentence and have no other use. -/
def sentenceEnds : CodePointSet := (Property.listed "Sentence_Terminal").difference fullStops

/-- Brackets and quotation marks. -/
def brackets : CodePointSet :=
  (Category.ofNames ["Ps", "Pe"]).union
    (.ofText "
      22 27 AB BB 2018-2019 201B-201D 201F 2039-203A 275B-2760 2E00-2E0D 2E1C-2E1D 2E20-2E21
      1F676-1F678")

/-- The classes for sentences. -/
def sentences : List (List String × CodePointSet) := [
  (["cr"], .ofText "D"),
  (["lf"], .ofText "A"),
  (["ex", "extend"], extensions.union joiner),
  (["se", "sep"], separators),
  (["fo", "format"], formats),
  (["sp"], (Property.listed "White_Space").difference (separators.union (.ofText "A D"))),
  (["lo", "lower"], sentenceLower),
  (["up", "upper"], sentenceUpper),
  (["le", "oletter"], (Property.alphabetic.union (.ofText "5F3")).difference sentenceLower
    |>.difference sentenceUpper |>.difference extensions),
  (["nu", "numeric"], numerals.union (.ofText "66C")),
  (["at", "aterm"], fullStops),
  (["sc", "scontinue"], .ofText "
    2C-2D 3A-3B 37E 55D 60C-60D 7F8 1802 1808 2013-2014 3001 FE10-FE11 FE13-FE14 FE31-FE32
    FE50-FE51 FE54-FE55 FE58 FE63 FF0C-FF0D FF1A-FF1B FF64"),
  (["st", "sterm"], sentenceEnds),
  (["cl", "close"], brackets.difference sentenceEnds)]

/-- The class for sentences with a name. -/
def sentence? (name : String) : Option CodePointSet := find? sentences name

end DocQuery.Unicode.Break
