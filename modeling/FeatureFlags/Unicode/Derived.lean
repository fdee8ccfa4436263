import FeatureFlags.Unicode.CharSet
import FeatureFlags.Unicode.CodeSet
import FeatureFlags.Unicode.Normalization
import FeatureFlags.Unicode.Script

/-!
# Derived properties

Sets of characters that follow from general categories and scripts, up to some characters.
-/

namespace FeatureFlags.Unicode

open CharSet (ofRuns ofCategories unions)

/-! ## Categories -/

/-- The alphabetic characters. -/
def alphabetic : CharSet :=
  unions [ofCategories [.lu, .ll, .lt, .lm, .lo, .nl], ofRuns CodeSet.alphabeticMarks]

/-- The lower case characters. -/
def lowercase : CharSet := unions [ofCategories [.ll], ofRuns CodeSet.lowercaseMarks]

/-- The upper case characters. -/
def uppercase : CharSet := unions [ofCategories [.lu], ofRuns CodeSet.uppercaseMarks]

/-- The characters with a case. -/
def cased : CharSet := unions [lowercase, uppercase, ofCategories [.lt]]

/-- The characters that case distinctions ignore. -/
def caseIgnorable : CharSet :=
  unions [ofCategories [.mn, .me, .cf, .lm, .sk], ofRuns CodeSet.wordMiddles]

/-- The mathematical characters. -/
def mathematical : CharSet := unions [ofCategories [.sm], ofRuns CodeSet.mathematicalMarks]

/-- The characters that extend a grapheme. -/
def graphemeExtend : CharSet := unions [ofCategories [.mn, .me], ofRuns CodeSet.graphemeMarks]

/-- The characters that a grapheme can be built on. -/
def graphemeBase : CharSet :=
  (unions [ofCategories [.cc, .cf, .cs, .co, .cn, .zl, .zp], graphemeExtend]).compl

/-- The characters of pattern languages. -/
def patternCharacters : CharSet :=
  unions [ofRuns CodeSet.patternSyntax, ofRuns CodeSet.patternWhiteSpace]

/-- The characters that identifiers may begin with although they are neither letters nor letterlike numerals. -/
def otherIdStart : CharSet :=
  unions [.range 0x1885 0x1886, .single 0x2118, .single 0x212E, .range 0x309B 0x309C]

/-- The characters that identifiers may go on with although their category does not tell so. -/
def otherIdContinue : CharSet :=
  unions [.single 0xB7, .single 0x387, .range 0x1369 0x1371, .single 0x19DA]

/-- The characters that identifiers may begin with. -/
def idStart : CharSet :=
  (unions [ofCategories [.lu, .ll, .lt, .lm, .lo, .nl], otherIdStart]).diff patternCharacters

/-- The characters that identifiers may go on with. -/
def idContinue : CharSet :=
  unions [idStart, ofCategories [.mn, .mc, .nd, .pc], otherIdContinue]

/-- The characters whose compatibility forms do not go on with an identifier. -/
def unstableContinue : CharSet :=
  unions [.single 0x37A, .range 0x309B 0x309C, .range 0xFC5E 0xFC63, .range 0xFDFA 0xFDFB,
    .single 0xFE70, .single 0xFE72, .single 0xFE74, .single 0xFE76, .single 0xFE78, .single 0xFE7A,
    .single 0xFE7C, .single 0xFE7E]

/-- The characters whose compatibility forms do not begin an identifier. -/
def unstableStart : CharSet :=
  unions [unstableContinue, .single 0xE33, .single 0xEB3, .range 0xFF9E 0xFF9F]

/-- The characters of words: letters, marks, digits, connectors and joiners. -/
def word : CharSet :=
  unions [alphabetic, ofCategories [.mn, .mc, .me, .nd, .pc], ofRuns CodeSet.joinControl]

/-- The decimal digits. -/
def digit : CharSet := ofCategories [.nd]

/-- The white space. -/
def space : CharSet := ofRuns CodeSet.whiteSpace

/-- The signs that take the vowel away from a letter and link it with the next one. -/
def graphemeLink : CharSet := ⟨fun n => combiningClass n == viramaClass, 56, false⟩

/-! ## Changes of case -/

/-- The characters that simple folding changes. -/
def folded : CharSet := ⟨fun n => foldCase n != n, foldingRanges.length, false⟩

/-- The characters with other ones that differ from them by case only. -/
def withVariants : CharSet := ⟨fun n => 1 < (variants n).length, 2 * foldingRanges.length, false⟩

/-- The runs of the lower case characters whose upper case is of several characters, or is not folded back. -/
def expandedByCase : Runs Bool := .ofRanges
  ["131 149 1F0 390 3B0 587 1E96-1E9A 1F50 1F52 1F54 1F56 1FB2 1FB4 1FB6-1FB7 1FC2 1FC4 1FC6-1FC7",
   "1FD2-1FD3 1FD6-1FD7 1FE2-1FE4 1FE6-1FE7 1FF2 1FF4 1FF6-1FF7 FB00-FB06 FB13-FB17"]

/-- The runs of the characters whose folding is of several characters. -/
def expandedByFolding : Runs Bool := .ofRanges
  ["DF 130 149 587 1E9A 1F80-1F87 1F90-1F97 1FA0-1FA7 1FB2-1FB4 1FB7 1FC2-1FC4 1FC7 1FF2-1FF4 1FF7",
   "FB00-FB06 FB13-FB17"]

/-- The letters of Georgian, whose upper case is not for the beginning of words. -/
def georgianLetters : CharSet := unions [.range 0x10D0 0x10FA, .range 0x10FD 0x10FF]

/-- The characters that folding changes. -/
def changedByFolding : CharSet := (unions [folded, ofRuns expandedByFolding]).diff (.single 0x1FBE)

/-- The characters that some mapping of cases changes. -/
def changedByCase : CharSet := unions [withVariants, .single 0x130, ofRuns expandedByCase]

/-- The characters that mapping to lower case changes. -/
def changedByLowercase : CharSet :=
  unions [folded.inter (unions [uppercase, ofCategories [.lt]]), .single 0x130, .range 0x13A0 0x13F5]

/-- The characters that mapping to upper case changes. -/
def changedByUppercase : CharSet :=
  unions [withVariants.inter lowercase, ofCategories [.lt], ofRuns expandedByCase]

/-- The characters that mapping to the case of titles changes. -/
def changedByTitlecase : CharSet :=
  unions [(withVariants.inter lowercase).diff georgianLetters, .single 0x1C4, .single 0x1C7, .single 0x1CA,
    .single 0x1F1, ofRuns expandedByCase]

/-! ## Scripts -/

/-- The characters that are counted to a script. -/
def scriptSet (script : String) : CharSet :=
  { contains := fun n => Script.code n == script
    pieces := (Script.table.starts.filter (·.2 == script)).size
    ascii := false }

/-- The characters that are used in a script. -/
def extensionSet (script : String) : CharSet :=
  { contains := Script.usedIn script
    pieces := (scriptSet script).pieces + (Script.extensions.filter (·.1.contains script)).length
    ascii := false }

end FeatureFlags.Unicode
