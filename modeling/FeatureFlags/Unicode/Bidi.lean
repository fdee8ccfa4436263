import FeatureFlags.Unicode.Runs

/-!
# Directions

Every character has a class that tells how it behaves where text from left to right and text from right to
left meet.
-/

namespace FeatureFlags.Unicode

/-- The class of a character in text of two directions. -/
inductive BidiClass where
  | left
  | right
  | arabicLetter
  | europeanNumber
  | europeanSeparator
  | europeanTerminator
  | arabicNumber
  | commonSeparator
  | nonspacingMark
  | boundaryNeutral
  | otherNeutral
  /-- White space, separators of paragraphs and the controls of direction. -/
  | blank
  deriving DecidableEq, Repr

namespace BidiClass

/-- The classes with their abbreviations. -/
def labels : List (String × BidiClass) :=
  [("L", left), ("R", right), ("Al", arabicLetter), ("En", europeanNumber), ("Es", europeanSeparator),
   ("Et", europeanTerminator), ("An", arabicNumber), ("Cs", commonSeparator), ("Nsm", nonspacingMark),
   ("Bn", boundaryNeutral), ("On", otherNeutral), ("Ws", blank)]

/-- The class of an abbreviation. -/
def ofLabel (label : String) : BidiClass := ((labels.lookup label)).getD left

/-- The classes of all code points. One that is no character counts as the one before. -/
def tableText : List String :=
  ["Bn9Ws5Bn14Ws5On2Et3On5EsCsEsCs2En10CsOn6L26On6L26On4Bn6WsBn26CsOnEt4On4LOn2BnOn2Et2En2OnLOn3",
   "EnLOn5L23OnL31OnL449On2L7On14L2On14L5On9LOn17Nsm112L4On2L8OnL5On2LOnL110OnL140Nsm7L256On5Et2",
   "Nsm45RNsmRNsm2RNsm2RNsm9R48An6On2AlEt2AlCsAlOn2Nsm11Al48Nsm21An10EtAn2Al3NsmAl101Nsm7AnOnNsm6",
   "Al2Nsm2OnNsm4Al2En10Al23NsmAl30Nsm29Al89Nsm11Al15R43Nsm9R2On4R3NsmR24Nsm4RNsm9RNsm3RNsm7R41",
   "Nsm5R2Al48An8Nsm8Al42Nsm24AnNsm32L55NsmLNsmL4Nsm8L4NsmL3Nsm7L10Nsm2L29NsmL58NsmL4Nsm6L6NsmL20",
   "Nsm4L12Et2L7EtL2Nsm5L57Nsm2L3Nsm24L23Nsm2L3NsmL11Nsm2L57NsmL4Nsm8L4Nsm3L18Nsm4L11Et8LNsm8L58",
   "NsmL2NsmLNsm6L6Nsm10L11Nsm4L28NsmL61NsmL12Nsm3L35On6EtOn6NsmL3NsmL55NsmLNsm3L5Nsm18L10Nsm4L18",
   "On7L2NsmL58NsmL15Nsm9L13Nsm4L26Nsm2L57Nsm2L4Nsm5L7NsmL20Nsm4L27NsmL72Nsm5L3Nsm6L89NsmL2Nsm11",
   "EtL7Nsm8L98NsmL2Nsm9L11Nsm8L72Nsm2L27NsmLNsmLNsmOn4L51Nsm14LNsm5LNsm2L5Nsm49L8NsmL102Nsm4L",
   "Nsm6LNsm2L2Nsm2L25Nsm2L4Nsm3L16Nsm4L13NsmL2Nsm2L6NsmL15NsmL703Nsm3L48On16L96OnL639WsL26On5",
   "L114Nsm3L29Nsm2L30Nsm14L18Nsm14L52Nsm2LNsm7L8NsmL2Nsm11L7EtLNsm3L16On27Nsm3BnNsmL117Nsm2L34",
   "NsmL118Nsm3L4Nsm2L9NsmL6Nsm7On6L152On34L23Nsm2L2Nsm3L56NsmLNsm9LNsmL2Nsm8L6Nsm13L48Nsm84L48",
   "NsmLNsm5LNsmL5NsmL40Nsm9L12Nsm2L32Nsm4L2Nsm2LNsm3L56NsmLNsm2L3NsmLNsm3L58Nsm8L2Nsm5L149Nsm3L",
   "Nsm13LNsm7L4NsmL6NsmL3Nsm2L198Nsm64L445OnLOn3L11On3L13On3L13On5L11On3Ws11Bn3LROn24Ws7CsEt5",
   "On15CsOn26WsBn6Ws4Bn6EnL3En6Es2On3LEn10Es2On4L16Et48Nsm48On2LOn4LOn2L10OnLOn3L5On6LOnLOnLOnL4",
   "EtL11On2L4On5L5On4L2On16L41On137EsEtOn290L69On26LOn242En20L78On450LOn339L256On768L229On6L4",
   "Nsm3L7On7L127NsmL96Nsm32On512WsOn4L3On25L9Nsm4L2OnL5On2L5On4L88Nsm2On2L3OnL90OnL196On48L45On3",
   "L48On16L28On3L50On15L12On4L167On4L99On2L31OnL6592On64L22160On64L317On3L95Nsm4OnNsm10On2L30",
   "Nsm2L80Nsm2L14On34L102OnL121NsmL3NsmL4NsmL25Nsm2LOn4Nsm4L8Et8L52On12L68Nsm10L18Nsm18L13NsmL38",
   "Nsm8L25Nsm11L46Nsm3L48NsmL2Nsm4L2Nsm2L39NsmL67Nsm6L2Nsm2L2Nsm11L3NsmL8NsmL47NsmL51NsmLNsm3L2",
   "Nsm2L5Nsm2LNsmL42Nsm2L8Nsm11L105On6L117NsmL2NsmL4Nsm3L20269RNsmR10EsR38Al494On18Al127On33Al13",
   "On3Nsm16On16Nsm16On32CsOnCs2OnCsOn9EtOn2Es2On5Et2On5Al143Bn2On2Et3On5EsCsEsCs2En10CsOn6L26On6",
   "L26On11L122Et2On3Et3On24L257OnL62On77L3On64L45Nsm131L96NsmEn31L118Nsm10L1152R287OnR225Nsm15",
   "R40Nsm8R165Nsm6R78On7R448Al36Nsm12An336R43Nsm2R80Nsm3R48Al22Nsm11Al31R18Nsm4R122LNsmL54Nsm15",
   "L11On20L10NsmL2Nsm2L10Nsm3L49Nsm4L2Nsm2L7Nsm11L51Nsm3L36Nsm5LNsm9L61NsmL12Nsm2L52Nsm9L10Nsm4",
   "L2NsmL95Nsm3L2NsmLNsm2L6NsmL2Nsm63L95NsmL3Nsm13L16Nsm2L57Nsm2L3NsmL37Nsm154L56Nsm8L2Nsm3LNsm",
   "L23NsmL84Nsm6LNsmL4Nsm2LNsm2L238Nsm6L4Nsm2LNsm2L27Nsm36L51Nsm8L2NsmLNsm2L31On32L43NsmLNsmL2",
   "Nsm6LNsmL101Nsm3L2Nsm4LNsm9L255Nsm9LNsm2L256Nsm2LNsmL4NsmL144Nsm8L4NsmL32Nsm6L2Nsm2L40Nsm6L2",
   "Nsm4L8Nsm9LNsm6L2Nsm3L46Nsm13LNsm2L406Nsm14L84Nsm23LNsm7LNsm2LNsm75L49Nsm21LNsm9L64Nsm3L2NsmL",
   "NsmL347Nsm2L11Nsm2L52Nsm8L2NsmLNsmL146On8Et4On30L5185NsmL6Nsm4025L9968Nsm5L59Nsm7L1048NsmL63",
   "Nsm4L79OnLNsm12L19629Nsm2LBn4704Nsm80L535Nsm3L9Bn8Nsm8L2Nsm7L30Nsm4L59On89Nsm3On123L64On96",
   "L891OnL57OnL57OnL57OnL57OnL10En50L512Nsm55L4Nsm50L8NsmL14NsmL22Nsm1125L256Nsm48L95Nsm113L48",
   "Nsm7L375Nsm18L44Nsm4L15Et465L28Nsm4L784R208Nsm48R68Nsm7R806Al639On528En11On5L31OnL58On6L61",
   "On57L122On2448En1040L786433Bn255Nsm196352"]

/-- The runs of the classes. -/
def table : Runs BidiClass := .ofLabels ofLabel tableText

/-- The class of a code point. -/
def ofCode (n : Nat) : BidiClass := (table.value? n).getD left

/-- Whether a class is one of text from right to left. -/
def isRightToLeft (c : BidiClass) : Bool := c == right || c == arabicLetter || c == arabicNumber

end BidiClass
end FeatureFlags.Unicode
