import FeatureFlags.Text.Utf8
import FeatureFlags.Unicode.Bidi
import FeatureFlags.Unicode.Joining
import FeatureFlags.Unicode.Normalization
import FeatureFlags.Url.Mapping
import FeatureFlags.Url.Punycode

/-!
# Domain names

The ASCII form of a domain name. Percent escapes are decoded, characters are mapped and composed, and labels
with characters beyond ASCII are encoded. Characters that have no place in a domain name make it invalid, and
so do labels that begin with a mark, joiners that join nothing, and directions that could be mistaken.
-/

namespace FeatureFlags.Domain

open Unicode (BidiClass category)

/-! ## Percent escapes -/

/-- The bytes of a text whose percent escapes are decoded; an incomplete escape stands for itself. -/
def decodeEscapes : List UInt8 → List UInt8
  | [] => []
  | [a] => [a]
  | [a, b] => [a, b]
  | a :: b :: c :: rest =>
    let hex (n : UInt8) : Option Nat := Text.hexValue? (Char.ofNat n.toNat)
    match a == 0x25, hex b, hex c with
    | true, some high, some low => UInt8.ofNat (high * 16 + low) :: decodeEscapes rest
    | _, _, _ => a :: decodeEscapes (b :: c :: rest)

/-! ## Characters -/

/-- Whether an ASCII character has no place in a domain name. -/
def isForbidden (c : Char) : Bool :=
  c.toNat ≤ 0x20 || c.toNat == 0x7F || "%#/:<>?@[\\]^|".toList.contains c

/-- What a character becomes; nothing if it, or what it stands for, has no place in a domain name. -/
def mapChar (c : Char) : Option (List Char) :=
  if c.toNat < 0x80 then if isForbidden c then none else some [c.toLower]
  else (mapCode c.toNat).filter (·.all (!isForbidden ·))

/-- Whether all characters are ASCII. -/
def isAscii (text : List Char) : Bool := text.all (·.toNat < 0x80)

/-- The canonical composition of a text. -/
def compose (text : List Char) : List Char :=
  if isAscii text then text else (Unicode.normalize (text.map Char.toNat)).map Char.ofNat

/-! ## Labels -/

/-- Whether a label begins with a mark, which has nothing to stand on. -/
def beginsWithMark : List Char → Bool
  | [] => false
  | c :: _ => [.mn, .mc, .me].contains (category c.toNat)

/-- The first code point that marks do not pass over. -/
def firstJoining? (codes : List Nat) : Option Nat := codes.find? (!Unicode.isTransparent ·)

/-- Whether the joiners among some code points stand where they make a difference, given the code points
before, the last one first: after a sign that takes the vowel away, or, if it is a joiner that keeps letters
apart, between two that would join. -/
def joinersFit (before : List Nat) : List Nat → Bool
  | [] => true
  | n :: rest =>
    let afterVirama := before.head?.any (Unicode.combiningClass · == Unicode.viramaClass)
    let fits :=
      if n = 0x200C then
        afterVirama || ((firstJoining? before).any Unicode.joinsNext &&
          (firstJoining? rest).any Unicode.joinsPrevious)
      else if n = 0x200D then afterVirama
      else true
    fits && joinersFit (n :: before) rest

/-- Whether a label beyond ASCII is one that can be told from others. -/
def isWellFormed (label : List Char) : Bool :=
  isAscii label || (!beginsWithMark label && joinersFit [] (label.map Char.toNat))

/-- The sign of an encoded label. -/
def encodedSign : List Char := ['x', 'n', '-', '-']

/-- Whether mapping and composition leave a text as it is. -/
def isStable (text : List Char) : Bool := text.all (fun c => mapChar c == some [c]) && compose text == text

/-- The text that a label stands for. An encoded label has to be the encoded form of a text beyond ASCII. -/
def decodeLabel? (label : List Char) : Option (List Char) :=
  if encodedSign.isPrefixOf label then do
    let encoding := label.drop encodedSign.length
    let text ← if isAscii label then Punycode.decode? encoding else none
    if !isAscii text && isStable text && Punycode.encode text == encoding then some text else none
  else some label

/-- The ASCII form of the text of a label. -/
def encodeLabel (text : List Char) : List Char :=
  if isAscii text then text else encodedSign ++ Punycode.encode text

/-! ## Directions -/

/-- The class of the last character that is no mark. -/
def lastClass? (classes : List BidiClass) : Option BidiClass :=
  classes.reverse.find? (· != .nonspacingMark)

/-- Whether a label shows its characters in one order only: it begins with a letter, has only characters that
keep to its direction, ends with a letter or a number, and has numbers of one sort if it is read from right
to left. -/
def keepsDirection (classes : List BidiClass) : Bool :=
  let neutral : List BidiClass :=
    [.europeanSeparator, .commonSeparator, .europeanTerminator, .otherNeutral, .boundaryNeutral,
     .nonspacingMark]
  let last := lastClass? classes
  match classes with
  | [] => true
  | .left :: _ =>
    classes.all (fun c => (BidiClass.left :: .europeanNumber :: neutral).contains c) &&
      last.any [.left, .europeanNumber].contains
  | .right :: _ | .arabicLetter :: _ =>
    classes.all (fun c => (BidiClass.europeanNumber :: neutral).contains c || c.isRightToLeft) &&
      last.any (fun c => c == .europeanNumber || c.isRightToLeft) &&
      !(classes.contains .europeanNumber && classes.contains .arabicNumber)
  | _ => false

/-- Whether the labels of a domain name cannot be mistaken: if there is text from right to left in any of them,
each one keeps its direction. -/
def directionsFit (labels : List (List Char)) : Bool :=
  labels.all isAscii ||
    (let classes := labels.map (·.map fun c => BidiClass.ofCode c.toNat)
    !classes.any (·.any BidiClass.isRightToLeft) || classes.all keepsDirection)

/-! ## Domain names -/

/-- The ASCII form of a domain name. -/
def toAscii? (text : List Char) : Option (List Char) := do
  let bytes := decodeEscapes (Text.Utf8.encode (String.ofList text))
  let chars ← (Text.Utf8.decode bytes).mapM mapChar
  let labels ← (Text.splitOn '.' (compose chars.flatten)).mapM decodeLabel?
  if labels.all isWellFormed && directionsFit labels then
    some (['.'].intercalate (labels.map encodeLabel))
  else none

end FeatureFlags.Domain
