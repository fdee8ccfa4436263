import FeatureFlags.Unicode.Derived

/-!
# Breaks in a text

The classes of characters from which follows where a text can be broken: between what a reader takes for one
character, between words and between sentences. Each class is listed with its names. A character in none of
the classes of a property has no name for its value.
-/

namespace FeatureFlags.Unicode

open CharSet (ofRuns ofCategories single range unions)

/-- A class of characters with its names. -/
abbrev NamedSet := List String × CharSet

/-- The ends of lines, which are classes of their own everywhere. -/
def lineEnds : List NamedSet := [(["cr"], single 0x0D), (["lf"], single 0x0A)]

/-! ## Graphemes -/

/-- The code points that no character has been given to and that are not shown. -/
def unassignedIgnorable : Runs Bool := .ofRanges
  ["2065 FFF0-FFF8 E0000 E0002-E001F E0080-E00FF E01F0-E0FFF"]

/-- The controls, after which a grapheme ends. -/
def graphemeControl : CharSet :=
  (unions [ofCategories [.zl, .zp, .cc, .cf], ofRuns unassignedIgnorable]).diff <|
    unions [single 0x0A, single 0x0D, range 0x200C 0x200D, range 0xE0020 0xE007F,
      ofRuns CodeSet.prependedConcatenationMark]

/-- The runs of the marks that stand behind a letter but do not go on with its grapheme. -/
def separateMarks : Runs Bool := .ofRanges
  ["102B-102C 1038 1062-1064 1067-106D 1083 1087-108C 108F 109A-109C 1A61 1A63-1A64 AA7B AA7D",
   "11720-11721"]

/-- The marks that take up space and go on with a grapheme. -/
def graphemeSpacingMark : CharSet :=
  unions [(ofCategories [.mc]).diff (unions [graphemeExtend, ofRuns separateMarks]), single 0xE33,
    single 0xEB3]

/-- The runs of the characters that begin a grapheme in front of another one. -/
def graphemePrepend : Runs Bool := .ofRanges
  ["600-605 6DD 70F 890-891 8E2 D4E 110BD 110CD 111C2-111C3 1193F 11941 11A3A 11A84-11A89 11D46",
   "11F02"]

/-- The syllables of Hangul. -/
def syllables : CharSet := range 0xAC00 0xD7A3

/-- The syllables of Hangul without a consonant at the end. -/
def openSyllables : CharSet :=
  ⟨fun n => syllables.contains n && (n - 0xAC00) % 28 == 0, 399, false⟩

/-- The classes for breaks between graphemes. -/
def graphemeBreaks : List NamedSet :=
  lineEnds ++
  [(["cn", "control"], graphemeControl),
   (["ex", "extend"], unions [graphemeExtend, ofRuns CodeSet.emojiModifier]),
   (["zwj"], single 0x200D),
   (["ri", "regionalindicator"], ofRuns CodeSet.regionalIndicator),
   (["pp", "prepend"], ofRuns graphemePrepend),
   (["sm", "spacingmark"], graphemeSpacingMark),
   (["l"], unions [range 0x1100 0x115F, range 0xA960 0xA97C]),
   (["v"], unions [range 0x1160 0x11A7, range 0xD7B0 0xD7C6]),
   (["t"], unions [range 0x11A8 0x11FF, range 0xD7CB 0xD7FB]),
   (["lv"], openSyllables),
   (["lvt"], syllables.diff openSyllables)]

/-! ## Words -/

/-- The characters that go on with what is before them in a word. -/
def wordExtend : CharSet :=
  unions [graphemeExtend, ofCategories [.mc], ofRuns CodeSet.emojiModifier]

/-- The letters of Katakana and the signs among them. -/
def wordKatakana : CharSet :=
  unions [scriptSet "Kana", range 0x3031 0x3035, range 0x309B 0x309C, single 0x30A0, single 0x30FC,
    single 0xFF70]

/-- The letters of Hebrew. -/
def hebrewLetters : CharSet := (scriptSet "Hebr").inter (ofCategories [.lo])

/-- The runs of the letters of scripts in which words are not separated. -/
def complexContext : Runs Bool := .ofRanges
  ["E01-E30 E32-E33 E40-E46 E81-E82 E84 E86-E8A E8C-EA3 EA5 EA7-EB0 EB2-EB3 EBD EC0-EC4 EC6",
   "EDC-EDF 1000-102A 103F 1050-1055 105A-105D 1061 1065-1066 106E-1070 1075-1081 108E 1780-17B3",
   "17D7 17DC 1950-196D 1970-1974 1980-19AB 19B0-19C9 1A20-1A54 1AA7 A9E0-A9E4 A9E6-A9EF",
   "A9FA-A9FE AA60-AA76 AA7A AA7E-AAAF AAB1 AAB5-AAB6 AAB9-AABD AAC0 AAC2 AADB-AADD 11700-1171A",
   "11740-11746"]

/-- The runs of the signs that count as letters in a word. -/
def wordSigns : Runs Bool := .ofRanges
  ["2C2-2C5 2D2-2D7 2DE-2DF 2E5-2EB 2ED 2EF-2FF 55A-55C 55E 58A 5F3 A708-A716 A720-A721 A789-A78A",
   "AB5B"]

/-- The letters of words. -/
def wordLetters : CharSet :=
  (unions [alphabetic, ofRuns wordSigns]).diff <|
    unions [ofRuns CodeSet.ideographic, wordKatakana, ofRuns complexContext, scriptSet "Hira", wordExtend,
      hebrewLetters]

/-- The runs of the signs between letters that do not end a word. -/
def midLetter : Runs Bool := .ofRanges ["3A B7 387 55F 5F4 2027 FE13 FE55 FF1A"]

/-- The runs of the signs between digits that do not end a word. -/
def midNumber : Runs Bool := .ofRanges
  ["2C 3B 37E 589 60C-60D 66C 7F8 2044 FE10 FE14 FE50 FE54 FF0C FF1B"]

/-- The runs of the signs between letters or between digits that do not end a word. -/
def midNumberLetter : Runs Bool := .ofRanges ["2E 2018-2019 2024 FE52 FF07 FF0E"]

/-- The classes for breaks between words. -/
def wordBreaks : List NamedSet :=
  lineEnds ++
  [(["nl", "newline"], unions [range 0x0B 0x0C, single 0x85, range 0x2028 0x2029]),
   (["extend"], wordExtend),
   (["zwj"], single 0x200D),
   (["ri", "regionalindicator"], ofRuns CodeSet.regionalIndicator),
   (["fo", "format"], (ofCategories [.cf]).diff (unions [range 0x200B 0x200D, wordExtend])),
   (["ka", "katakana"], wordKatakana),
   (["hl", "hebrewletter"], hebrewLetters),
   (["le", "aletter"], wordLetters),
   (["sq", "singlequote"], single 0x27),
   (["dq", "doublequote"], single 0x22),
   (["mb", "midnumlet"], ofRuns midNumberLetter),
   (["ml", "midletter"], ofRuns midLetter),
   (["mn", "midnum"], ofRuns midNumber),
   (["nu", "numeric"], unions [digit, single 0x66B]),
   (["ex", "extendnumlet"], unions [ofCategories [.pc], single 0x202F]),
   (["wsegspace"], (ofCategories [.zs]).diff (unions [single 0xA0, single 0x2007, single 0x202F]))]

/-! ## Sentences -/

/-- The characters that go on with what is before them in a sentence. -/
def sentenceExtend : CharSet := unions [graphemeExtend, ofCategories [.mc], single 0x200D]

/-- The ends of paragraphs other than those of lines. -/
def paragraphEnds : CharSet := unions [single 0x85, range 0x2028 0x2029]

/-- The lower case letters of scripts with cases. -/
def sentenceLower : CharSet :=
  lowercase.diff (unions [graphemeExtend, range 0x10D0 0x10FA, range 0x10FD 0x10FF])

/-- The upper case letters of scripts with cases. -/
def sentenceUpper : CharSet :=
  (unions [uppercase, ofCategories [.lt]]).diff (unions [range 0x1C90 0x1CBA, range 0x1CBD 0x1CBF])

/-- The letters without a case. -/
def sentenceLetters : CharSet :=
  (unions [alphabetic, single 0x5F3]).diff (unions [sentenceLower, sentenceUpper, sentenceExtend])

/-- The runs of the full stops that may also stand within a sentence. -/
def ambiguousStops : Runs Bool := .ofRanges ["2E 2024 FE52 FF0E"]

/-- The runs of the signs that go on with a sentence. -/
def sentenceContinue : Runs Bool := .ofRanges
  ["2C-2D 3A 55D 60C-60D 7F8 1802 1808 2013-2014 3001 FE10-FE11 FE13 FE31-FE32 FE50-FE51 FE55 FE58",
   "FE63 FF0C-FF0D FF1A FF64"]

/-- The runs of the quotation marks that are not known to begin or to end something. -/
def ambiguousQuotes : Runs Bool := .ofRanges
  ["22 27 275B-2760 2E00-2E01 2E06-2E08 2E0B 1F676-1F678"]

/-- The classes for breaks between sentences. -/
def sentenceBreaks : List NamedSet :=
  lineEnds ++
  [(["se", "sep"], paragraphEnds),
   (["sp"], space.diff (unions [single 0x0A, single 0x0D, paragraphEnds])),
   (["ex", "extend"], sentenceExtend),
   (["fo", "format"], (ofCategories [.cf]).diff sentenceExtend),
   (["lo", "lower"], sentenceLower),
   (["up", "upper"], sentenceUpper),
   (["le", "oletter"], sentenceLetters),
   (["nu", "numeric"], unions [digit, range 0x66B 0x66C]),
   (["at", "aterm"], ofRuns ambiguousStops),
   (["sc", "scontinue"], ofRuns sentenceContinue),
   (["st", "sterm"], (ofRuns CodeSet.sentenceTerminal).diff (ofRuns ambiguousStops)),
   (["cl", "close"], unions [ofCategories [.ps, .pe, .pi, .pf], ofRuns ambiguousQuotes])]

end FeatureFlags.Unicode
