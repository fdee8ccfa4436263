import FeatureFlags.Unicode.Age
import FeatureFlags.Unicode.Breaks

/-!
# Named properties

The sets of characters that a name stands for: general categories, scripts and properties that a character
has or has not; and those that a name stands for as the value of another one. In names neither case nor
separators count, nor does a leading `is`.
-/

namespace FeatureFlags.Unicode

open CharSet (ofRuns ofCategories unions)

/-! ## Names -/

/-- A name without its leading `is`, in lower case and with letters, digits and signs of ASCII only. One
name that this would change into another one is kept. -/
def plainName (name : String) : String :=
  let chars := name.toList
  let lower (cs : List Char) : List Char :=
    (cs.filter fun c => c != ' ' && c != '_' && c != '-' && c.toNat < 0x80).map Char.toLower
  match chars with
  | i :: s :: rest =>
    if i.toLower = 'i' ∧ s.toLower = 's' then
      if lower rest = ['c'] then "isc" else String.ofList (lower rest)
    else String.ofList (lower chars)
  | _ => String.ofList (lower chars)

/-- The properties that a character has or has not, by their names. -/
def namedProperties : List (List String × CharSet) :=
  [(["alpha", "alphabetic"], alphabetic),
   (["lower", "lowercase"], lowercase),
   (["upper", "uppercase"], uppercase),
   (["cased"], cased),
   (["ci", "caseignorable"], caseIgnorable),
   (["math"], mathematical),
   (["grext", "graphemeextend"], graphemeExtend),
   (["grbase", "graphemebase"], graphemeBase),
   (["grlink", "graphemelink"], graphemeLink),
   (["cwcf", "changeswhencasefolded"], changedByFolding),
   (["cwcm", "changeswhencasemapped"], changedByCase),
   (["cwl", "changeswhenlowercased"], changedByLowercase),
   (["cwu", "changeswhenuppercased"], changedByUppercase),
   (["cwt", "changeswhentitlecased"], changedByTitlecase),
   (["oalpha", "otheralphabetic"], ofRuns CodeSet.alphabeticMarks),
   (["olower", "otherlowercase"], ofRuns CodeSet.lowercaseMarks),
   (["oupper", "otheruppercase"], ofRuns CodeSet.uppercaseMarks),
   (["omath", "othermath"], ofRuns CodeSet.mathematicalMarks),
   (["ogrext", "othergraphemeextend"], ofRuns CodeSet.graphemeMarks),
   (["oids", "otheridstart"], otherIdStart),
   (["oidc", "otheridcontinue"], otherIdContinue),
   (["odi", "otherdefaultignorablecodepoint"], ofRuns CodeSet.otherIgnorable),
   (["ids", "idstart"], idStart),
   (["idc", "idcontinue"], idContinue),
   (["xids", "xidstart"], idStart.diff unstableStart),
   (["xidc", "xidcontinue"], idContinue.diff unstableContinue),
   (["wspace", "whitespace", "space"], space),
   (["patws", "patternwhitespace"], ofRuns CodeSet.patternWhiteSpace),
   (["patsyn", "patternsyntax"], ofRuns CodeSet.patternSyntax),
   (["joinc", "joincontrol"], ofRuns CodeSet.joinControl),
   (["dash"], ofRuns CodeSet.dash),
   (["hyphen"], ofRuns CodeSet.hyphen),
   (["dia", "diacritic"], ofRuns CodeSet.diacritic),
   (["ext", "extender"], ofRuns CodeSet.extender),
   (["hex", "hexdigit"], ofRuns CodeSet.hexDigit),
   (["ahex", "asciihexdigit"], ofRuns CodeSet.asciiHexDigit),
   (["ideo", "ideographic"], ofRuns CodeSet.ideographic),
   (["uideo", "unifiedideograph"], ofRuns CodeSet.unifiedIdeograph),
   (["radical"], ofRuns CodeSet.radical),
   (["idsb", "idsbinaryoperator"], ofRuns CodeSet.idsBinaryOperator),
   (["idst", "idstrinaryoperator"], ofRuns CodeSet.idsTrinaryOperator),
   (["loe", "logicalorderexception"], ofRuns CodeSet.logicalOrderException),
   (["nchar", "noncharactercodepoint"], ofRuns CodeSet.noncharacter),
   (["pcm", "prependedconcatenationmark"], ofRuns CodeSet.prependedConcatenationMark),
   (["qmark", "quotationmark"], ofRuns CodeSet.quotationMark),
   (["ri", "regionalindicator"], ofRuns CodeSet.regionalIndicator),
   (["sterm", "sentenceterminal"], ofRuns CodeSet.sentenceTerminal),
   (["sd", "softdotted"], ofRuns CodeSet.softDotted),
   (["term", "terminalpunctuation"], ofRuns CodeSet.terminalPunctuation),
   (["vs", "variationselector"], ofRuns CodeSet.variationSelector),
   (["bidic", "bidicontrol"], ofRuns CodeSet.bidiControl),
   (["bidim", "bidimirrored"], ofRuns CodeSet.bidiMirrored),
   (["dep", "deprecated"], ofRuns CodeSet.deprecated),
   (["di", "defaultignorablecodepoint"], ofRuns CodeSet.defaultIgnorable),
   (["emoji"], ofRuns CodeSet.emoji),
   (["epres", "emojipresentation"], ofRuns CodeSet.emojiPresentation),
   (["emod", "emojimodifier"], ofRuns CodeSet.emojiModifier),
   (["ebase", "emojimodifierbase"], ofRuns CodeSet.emojiModifierBase),
   (["ecomp", "emojicomponent"], ofRuns CodeSet.emojiComponent),
   (["extpict", "extendedpictographic"], ofRuns CodeSet.extendedPictographic)]

/-- The set of categories that a plain name stands for. No character is a surrogate, and the name of that
category stands for no set. -/
def categorySet? (name : String) : Option CharSet :=
  if name = "any" then some (.range 0 maxCodePoint)
  else if name = "assigned" then some (ofCategories [.cn]).compl
  else if name = "ascii" then some (.range 0 0x7F)
  else
    match Category.ofName? name with
    | none | some [.cs] => none
    | some cs => some (ofCategories cs)

/-- The set of a script that a plain name stands for. -/
def scriptSet? (name : String) : Option CharSet := (Script.ofName? name).map scriptSet

/-- The set that a name stands for: a property, a category or a script. -/
def namedSet? (name : String) : Option CharSet :=
  let plain := plainName name
  ((namedProperties.find? (·.1.contains plain)).map (·.2)).or
    ((categorySet? plain).or (scriptSet? plain))

/-- The set of a value by its plain name, among the values of a property. -/
def breakSet? (values : List (List String × CharSet)) (name : String) : Option CharSet :=
  (values.find? (·.1.contains name)).map (·.2)

/-- The set of the characters whose property of some name has the value of another name. -/
def valueSet? (property value : String) : Option CharSet :=
  let value := plainName value
  match plainName property with
  | "gc" | "generalcategory" => categorySet? value
  | "sc" | "script" => scriptSet? value
  | "scx" | "scriptextensions" => (Script.ofName? value).map extensionSet
  | "age" => Age.set? value
  | "gcb" | "graphemeclusterbreak" => breakSet? graphemeBreaks value
  | "wb" | "wordbreak" => breakSet? wordBreaks value
  | "sb" | "sentencebreak" => breakSet? sentenceBreaks value
  | _ => none

end FeatureFlags.Unicode
