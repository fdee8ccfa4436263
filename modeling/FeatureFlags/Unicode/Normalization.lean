import FeatureFlags.Unicode.Runs

/-!
# Canonical composition

Text may write a letter with a mark as one code point or as two. `normalize` takes all letters apart, brings
the marks behind each of them into their canonical order and puts together what can be put together.

Some code points stand for others without ever being composed, such as the sign for one angstrom. They are
left alone here: the mapping of domain names replaces them before.
-/

namespace FeatureFlags.Unicode

/-! ## Combining classes -/

/-- The combining classes other than 0, each with its code points. -/
def combiningClasses : List (Nat × Runs Bool) :=
  [(1, .ofRanges ["334-338 1CD4 1CE2-1CE8 20D2-20D3 20D8-20DA 20E5-20E6 20EA-20EB 10A39 16AF0-16AF4",
     "1BC9E 1D167-1D169"]),
   (6, .ofRanges ["16FF0-16FF1"]),
   (7, .ofRanges ["93C 9BC A3C ABC B3C C3C CBC 1037 1B34 1BE6 1C37 A9B3 110BA 11173 111CA 11236",
     "112E9 1133B-1133C 11446 114C3 115C0 116B7 1183A 11943 11D42 1E94A"]),
   (8, .ofRanges ["3099-309A"]),
   (9, .ofRanges ["94D 9CD A4D ACD B4D BCD C4D CCD D3B-D3C D4D DCA E3A EBA F84 1039-103A 1714-1715",
     "1734 17D2 1A60 1B44 1BAA-1BAB 1BF2-1BF3 2D7F A806 A82C A8C4 A953 A9C0 AAF6 ABED",
     "10A3F 11046 11070 1107F 110B9 11133-11134 111C0 11235 112EA 1134D 11442 114C2",
     "115BF 1163F 116B6 1172B 11839 1193D-1193E 119E0 11A34 11A47 11A99 11C3F",
     "11D44-11D45 11D97 11F41-11F42"]),
   (10, .ofRanges ["5B0"]), (11, .ofRanges ["5B1"]), (12, .ofRanges ["5B2"]),
   (13, .ofRanges ["5B3"]), (14, .ofRanges ["5B4"]), (15, .ofRanges ["5B5"]),
   (16, .ofRanges ["5B6"]), (17, .ofRanges ["5B7"]), (18, .ofRanges ["5B8 5C7"]),
   (19, .ofRanges ["5B9-5BA"]), (20, .ofRanges ["5BB"]), (21, .ofRanges ["5BC"]),
   (22, .ofRanges ["5BD"]), (23, .ofRanges ["5BF"]), (24, .ofRanges ["5C1"]),
   (25, .ofRanges ["5C2"]), (26, .ofRanges ["FB1E"]), (27, .ofRanges ["64B 8F0"]),
   (28, .ofRanges ["64C 8F1"]), (29, .ofRanges ["64D 8F2"]), (30, .ofRanges ["618 64E"]),
   (31, .ofRanges ["619 64F"]), (32, .ofRanges ["61A 650"]), (33, .ofRanges ["651"]),
   (34, .ofRanges ["652"]), (35, .ofRanges ["670"]), (36, .ofRanges ["711"]),
   (84, .ofRanges ["C55"]), (91, .ofRanges ["C56"]), (103, .ofRanges ["E38-E39"]),
   (107, .ofRanges ["E48-E4B"]), (118, .ofRanges ["EB8-EB9"]), (122, .ofRanges ["EC8-ECB"]),
   (129, .ofRanges ["F71"]), (130, .ofRanges ["F72 F7A-F7D F80"]), (132, .ofRanges ["F74"]),
   (202, .ofRanges ["321-322 327-328 1DD0"]), (214, .ofRanges ["1DCE"]),
   (216, .ofRanges ["31B F39 1D165-1D166 1D16E-1D172"]), (218, .ofRanges ["1DFA 302A"]),
   (220, .ofRanges ["316-319 31C-320 323-326 329-333 339-33C 347-349 34D-34E 353-356 359-35A 591 596",
     "59B 5A2-5A7 5AA 5C5 655-656 65C 65F 6E3 6EA 6ED 731 734 737-739 73B-73C 73E 742",
     "744 746 748 7F2 7FD 859-85B 899-89B 8CF-8D3 8E3 8E6 8E9 8ED-8EF 8F6 8F9-8FA 952",
     "F18-F19 F35 F37 FC6 108D 193B 1A18 1A7F 1AB5-1ABA 1ABD 1ABF-1AC0 1AC3-1AC4 1ACA",
     "1B6C 1CD5-1CD9 1CDC-1CDF 1CED 1DC2 1DCA 1DCF 1DF9 1DFD 1DFF 20E8 20EC-20EF",
     "A92B-A92D AAB4 FE27-FE2D 101FD 102E0 10A0D 10A3A 10AE6 10EFD-10EFF 10F46-10F47",
     "10F4B 10F4D-10F50 10F83 10F85 1D17B-1D182 1D18A-1D18B 1E4EE 1E8D0-1E8D6"]),
   (222, .ofRanges ["59A 5AD 1939 302D"]), (224, .ofRanges ["302E-302F"]),
   (226, .ofRanges ["1D16D"]), (228, .ofRanges ["5AE 18A9 1DF7-1DF8 302B"]),
   (230, .ofRanges ["300-314 33D-344 346 34A-34C 350-352 357 35B 363-36F 483-487 592-595 597-599",
     "59C-5A1 5A8-5A9 5AB-5AC 5AF 5C4 610-617 653-654 657-65B 65D-65E 6D6-6DC 6DF-6E2",
     "6E4 6E7-6E8 6EB-6EC 730 732-733 735-736 73A 73D 73F-741 743 745 747 749-74A",
     "7EB-7F1 7F3 816-819 81B-823 825-827 829-82D 898 89C-89F 8CA-8CE 8D4-8E1 8E4-8E5",
     "8E7-8E8 8EA-8EC 8F3-8F5 8F7-8F8 8FB-8FF 951 953-954 9FE F82-F83 F86-F87",
     "135D-135F 17DD 193A 1A17 1A75-1A7C 1AB0-1AB4 1ABB-1ABC 1AC1-1AC2 1AC5-1AC9",
     "1ACB-1ACE 1B6B 1B6D-1B73 1CD0-1CD2 1CDA-1CDB 1CE0 1CF4 1CF8-1CF9 1DC0-1DC1",
     "1DC3-1DC9 1DCB-1DCC 1DD1-1DF5 1DFB 1DFE 20D0-20D1 20D4-20D7 20DB-20DC 20E1 20E7",
     "20E9 20F0 2CEF-2CF1 2DE0-2DFF A66F A674-A67D A69E-A69F A6F0-A6F1 A8E0-A8F1 AAB0",
     "AAB2-AAB3 AAB7-AAB8 AABE-AABF AAC1 FE20-FE26 FE2E-FE2F 10376-1037A 10A0F 10A38",
     "10AE5 10D24-10D27 10EAB-10EAC 10F48-10F4A 10F4C 10F82 10F84 11100-11102",
     "11366-1136C 11370-11374 1145E 16B30-16B36 1D185-1D189 1D1AA-1D1AD 1D242-1D244",
     "1E000-1E006 1E008-1E018 1E01B-1E021 1E023-1E024 1E026-1E02A 1E08F 1E130-1E136",
     "1E2AE 1E2EC-1E2EF 1E4EF 1E944-1E949"]),
   (232, .ofRanges ["315 31A 358 1DF6 302C 1E4EC-1E4ED"]), (233, .ofRanges ["35C 35F 362 1DFC"]),
   (234, .ofRanges ["35D-35E 360-361 1DCD"]), (240, .ofRanges ["345"])]

/-- The combining class of a code point. Marks of different classes may change places; letters have class 0. -/
def combiningClass (n : Nat) : Nat :=
  ((combiningClasses.find? (·.2.contains n)).map (·.1)).getD 0

/-- The class of the signs that take the vowel away from a letter. -/
def viramaClass : Nat := 9

/-! ## Letters with marks -/

/-- Marks with the letters before them and what these make with the mark, one after the other. -/
def compositionText : List (Nat × List String) :=
  [(0x300, ["AÀEÈIÌNǸOÒUÙWẀYỲaàeèiìnǹoòuùwẁyỳ¨῭ÂẦÊỀÔỒÜǛâầêềôồüǜĂẰăằĒḔēḕŌṐōṑƠỜơờƯỪưừΑᾺΕῈΗῊΙῚΟῸΥῪ",
     "ΩῺαὰεὲηὴιὶοὸυὺωὼϊῒϋῢЕЀИЍеѐиѝἀἂἁἃἈἊἉἋἐἒἑἓἘἚἙἛἠἢἡἣἨἪἩἫἰἲἱἳἸἺἹἻὀὂὁὃὈὊὉὋὐὒὑὓὙὛὠὢὡὣὨὪὩὫ",
     "᾿῍῾῝"]),
   (0x301, ["AÁCĆEÉGǴIÍKḰLĹMḾNŃOÓPṔRŔSŚUÚWẂYÝZŹaácćeégǵiíkḱlĺmḿnńoópṕrŕsśuúwẃyýzź¨΅ÂẤÅǺÆǼÇḈÊẾÏḮ",
     "ÔỐÕṌØǾÜǗâấåǻæǽçḉêếïḯôốõṍøǿüǘĂẮăắĒḖēḗŌṒōṓŨṸũṹƠỚơớƯỨưứΑΆΕΈΗΉΙΊΟΌΥΎΩΏαάεέηήιίοόυύωώϊΐ",
     "ϋΰϒϓГЃКЌгѓкќἀἄἁἅἈἌἉἍἐἔἑἕἘἜἙἝἠἤἡἥἨἬἩἭἰἴἱἵἸἼἹἽὀὄὁὅὈὌὉὍὐὔὑὕὙὝὠὤὡὥὨὬὩὭ᾿῎῾῞"]),
   (0x302, ["AÂCĈEÊGĜHĤIÎJĴOÔSŜUÛWŴYŶZẐaâcĉeêgĝhĥiîjĵoôsŝuûwŵyŷzẑẠẬạậẸỆẹệỌỘọộ"]),
   (0x303, ["AÃEẼIĨNÑOÕUŨVṼYỸaãeẽiĩnñoõuũvṽyỹÂẪÊỄÔỖâẫêễôỗĂẴăẵƠỠơỡƯỮưữ"]),
   (0x304, ["AĀEĒGḠIĪOŌUŪYȲaāeēgḡiīoōuūyȳÄǞÆǢÕȬÖȪÜǕäǟæǣõȭöȫüǖǪǬǫǭȦǠȧǡȮȰȯȱΑᾹΙῙΥῩαᾱιῑυῡИӢУӮиӣуӯḶḸ",
     "ḷḹṚṜṛṝ"]),
   (0x306, ["AĂEĔGĞIĬOŎUŬaăeĕgğiĭoŏuŭȨḜȩḝΑᾸΙῘΥῨαᾰιῐυῠАӐЕӖЖӁИЙУЎаӑеӗжӂийуўẠẶạặ"]),
   (0x307, ["AȦBḂCĊDḊEĖFḞGĠHḢIİMṀNṄOȮPṖRṘSṠTṪWẆXẊYẎZŻaȧbḃcċdḋeėfḟgġhḣmṁnṅoȯpṗrṙsṡtṫwẇxẋyẏzżŚṤśṥ",
     "ŠṦšṧſẛṢṨṣṩ"]),
   (0x308, ["AÄEËHḦIÏOÖUÜWẄXẌYŸaäeëhḧiïoötẗuüwẅxẍyÿÕṎõṏŪṺūṻΙΪΥΫιϊυϋϒϔІЇАӒЕЁЖӜЗӞИӤОӦУӰЧӴЫӸЭӬаӓеё",
     "жӝзӟиӥоӧуӱчӵыӹэӭіїӘӚәӛӨӪөӫ"]),
   (0x309, ["AẢEẺIỈOỎUỦYỶaảeẻiỉoỏuủyỷÂẨÊỂÔỔâẩêểôổĂẲăẳƠỞơởƯỬưử"]), (0x30A, ["AÅUŮaåuůwẘyẙ"]),
   (0x30B, ["OŐUŰoőuűУӲуӳ"]),
   (0x30C, ["AǍCČDĎEĚGǦHȞIǏKǨLĽNŇOǑRŘSŠTŤUǓZŽaǎcčdďeěgǧhȟiǐjǰkǩlľnňoǒrřsštťuǔzžÜǙüǚƷǮʒǯ"]),
   (0x30F, ["AȀEȄIȈOȌRȐUȔaȁeȅiȉoȍrȑuȕѴѶѵѷ"]), (0x311, ["AȂEȆIȊOȎRȒUȖaȃeȇiȋoȏrȓuȗ"]),
   (0x313, ["ΑἈΕἘΗἨΙἸΟὈΩὨαἀεἐηἠιἰοὀρῤυὐωὠ"]), (0x314, ["ΑἉΕἙΗἩΙἹΟὉΡῬΥὙΩὩαἁεἑηἡιἱοὁρῥυὑωὡ"]),
   (0x31B, ["OƠUƯoơuư"]),
   (0x323, ["AẠBḄDḌEẸHḤIỊKḲLḶMṂNṆOỌRṚSṢTṬUỤVṾWẈYỴZẒaạbḅdḍeẹhḥiịkḳlḷmṃnṇoọrṛsṣtṭuụvṿwẉyỵzẓƠỢơợƯỰ",
     "ưự"]),
   (0x324, ["UṲuṳ"]), (0x325, ["AḀaḁ"]), (0x326, ["SȘTȚsștț"]),
   (0x327, ["CÇDḐEȨGĢHḨKĶLĻNŅRŖSŞTŢcçdḑeȩgģhḩkķlļnņrŗsştţ"]), (0x328, ["AĄEĘIĮOǪUŲaąeęiįoǫuų"]),
   (0x32D, ["DḒEḘLḼNṊTṰUṶdḓeḙlḽnṋtṱuṷ"]), (0x32E, ["HḪhḫ"]), (0x330, ["EḚIḬUṴeḛiḭuṵ"]),
   (0x331, ["BḆDḎKḴLḺNṈRṞTṮZẔbḇdḏhẖkḵlḻnṉrṟtṯzẕ"]),
   (0x338, ["<≮=≠>≯←↚→↛↔↮⇐⇍⇒⇏⇔⇎∃∄∈∉∋∌∣∤∥∦∼≁≃≄≅≇≈≉≍≭≡≢≤≰≥≱≲≴≳≵≶≸≷≹≺⊀≻⊁≼⋠≽⋡⊂⊄⊃⊅⊆⊈⊇⊉⊑⋢⊒⋣⊢⊬⊨⊭⊩⊮⊫⊯⊲⋪",
     "⊳⋫⊴⋬⊵⋭"]),
   (0x342, ["¨῁αᾶηῆιῖυῦωῶϊῗϋῧἀἆἁἇἈἎἉἏἠἦἡἧἨἮἩἯἰἶἱἷἸἾἹἿὐὖὑὗὙὟὠὦὡὧὨὮὩὯ᾿῏῾῟"]),
   (0x345, ["ΑᾼΗῌΩῼάᾴήῄαᾳηῃωῳώῴἀᾀἁᾁἂᾂἃᾃἄᾄἅᾅἆᾆἇᾇἈᾈἉᾉἊᾊἋᾋἌᾌἍᾍἎᾎἏᾏἠᾐἡᾑἢᾒἣᾓἤᾔἥᾕἦᾖἧᾗἨᾘἩᾙἪᾚἫᾛἬᾜἭᾝἮᾞἯᾟ",
     "ὠᾠὡᾡὢᾢὣᾣὤᾤὥᾥὦᾦὧᾧὨᾨὩᾩὪᾪὫᾫὬᾬὭᾭὮᾮὯᾯὰᾲὴῂὼῲᾶᾷῆῇῶῷ"]),
   (0x653, ["\u0627\u0622"]),
   (0x654, ["\u0627\u0623\u0648\u0624\u064A\u0626\u06C1\u06C2\u06D2\u06D3\u06D5\u06C0"]),
   (0x655, ["\u0627\u0625"]), (0x93C, ["नऩरऱळऴ"]), (0x9BE, ["\u09C7\u09CB"]),
   (0x9D7, ["\u09C7\u09CC"]), (0xB3E, ["\u0B47\u0B4B"]), (0xB56, ["\u0B47\u0B48"]),
   (0xB57, ["\u0B47\u0B4C"]), (0xBBE, ["\u0BC6\u0BCA\u0BC7\u0BCB"]), (0xBD7, ["ஒஔ\u0BC6\u0BCC"]),
   (0xC56, ["\u0C46\u0C48"]), (0xCC2, ["\u0CC6\u0CCA"]),
   (0xCD5, ["\u0CBF\u0CC0\u0CC6\u0CC7\u0CCA\u0CCB"]), (0xCD6, ["\u0CC6\u0CC8"]),
   (0xD3E, ["\u0D46\u0D4A\u0D47\u0D4B"]), (0xD57, ["\u0D46\u0D4C"]),
   (0xDCA, ["\u0DD9\u0DDA\u0DDC\u0DDD"]), (0xDCF, ["\u0DD9\u0DDC"]), (0xDDF, ["\u0DD9\u0DDE"]),
   (0x102E, ["ဥဦ"]),
   (0x1B35, ["ᬅᬆᬇᬈᬉᬊᬋᬌᬍᬎᬑᬒ\u1B3A\u1B3B\u1B3C\u1B3D\u1B3E\u1B40\u1B3F\u1B41\u1B42\u1B43"]),
   (0x3099, ["うゔかがきぎくぐけげこごさざしじすずせぜそぞただちぢつづてでとどはばひびふぶへべ",
     "ほぼゝゞウヴカガキギクグケゲコゴサザシジスズセゼソゾタダチヂツヅテデトドハバヒビ",
     "フブヘベホボワヷヰヸヱヹヲヺヽヾ"]),
   (0x309A, ["はぱひぴふぷへぺほぽハパヒピフプヘペホポ"]), (0x110BA, ["𑂙𑂚𑂛𑂜𑂥𑂫"]),
   (0x11127, ["𑄱𑄮𑄲𑄯"]), (0x1133E, ["𑍇𑍋"]), (0x11357, ["𑍇𑍌"]), (0x114B0, ["𑒹𑒼"]), (0x114BA, ["𑒹𑒻"]),
   (0x114BD, ["𑒹𑒾"]), (0x115AF, ["𑖸𑖺𑖹𑖻"]), (0x11930, ["𑤵𑤸"])]

/-- The pairs of code points in a text. -/
def readPairs : List Char → List (Nat × Nat)
  | letter :: composite :: rest => (letter.toNat, composite.toNat) :: readPairs rest
  | _ => []

/-- Marks with the letters before them and what these make with the mark. -/
def compositions : List (Nat × List (Nat × Nat)) :=
  compositionText.map fun (mark, lines) => (mark, readPairs (String.join lines).toList)

/-! ## Syllables of Hangul -/

namespace Hangul

/-- The first of the syllables. They are in order: of 19 leading consonants, each with 21 vowels, each with
28 endings, of which the first one is none. -/
def firstSyllable : Nat := 0xAC00

/-- The first leading consonant. -/
def firstLeading : Nat := 0x1100

/-- The first vowel. -/
def firstVowel : Nat := 0x1161

/-- The place before the first consonant that ends a syllable. -/
def beforeEndings : Nat := 0x11A7

/-- Whether a code point is a syllable. -/
def isSyllable (n : Nat) : Bool := firstSyllable ≤ n && n < firstSyllable + 19 * 21 * 28

/-- What a leading consonant makes with a vowel, or a syllable without an ending with a consonant. -/
def compose? (first second : Nat) : Option Nat :=
  if firstLeading ≤ first ∧ first < firstLeading + 19 ∧ firstVowel ≤ second ∧ second < firstVowel + 21 then
    some (firstSyllable + ((first - firstLeading) * 21 + (second - firstVowel)) * 28)
  else if isSyllable first ∧ (first - firstSyllable) % 28 = 0 ∧
      beforeEndings < second ∧ second < beforeEndings + 28 then
    some (first + (second - beforeEndings))
  else none

/-- The two parts of a syllable. -/
def decompose? (n : Nat) : Option (Nat × Nat) :=
  if isSyllable n then
    let place := n - firstSyllable
    if place % 28 = 0 then some (firstLeading + place / (21 * 28), firstVowel + place / 28 % 21)
    else some (n - place % 28, beforeEndings + place % 28)
  else none

end Hangul

/-! ## Composition -/

/-- What two code points make. -/
def compose? (first second : Nat) : Option Nat :=
  match Hangul.compose? first second with
  | some n => some n
  | none => do
    let (_, pairs) ← compositions.find? (·.1 == second)
    let (_, composite) ← pairs.find? (·.1 == first)
    return composite

/-- The two code points that make one. -/
def decompose? (n : Nat) : Option (Nat × Nat) :=
  match Hangul.decompose? n with
  | some parts => some parts
  | none => compositions.findSome? fun (mark, pairs) =>
      (pairs.find? (·.2 == n)).map fun (letter, _) => (letter, mark)

/-- Takes a code point apart as often as some number says. No letter has more than three marks. -/
def decompose : Nat → Nat → List Nat
  | 0, n => [n]
  | depth + 1, n =>
    match decompose? n with
    | none => [n]
    | some (first, second) => decompose depth first ++ [second]

/-- Puts a code point at the end of a text that is read backwards, before the marks of greater classes. -/
def placeMark (n : Nat) : List Nat → List Nat
  | [] => [n]
  | last :: done =>
    if combiningClass n ≠ 0 ∧ combiningClass n < combiningClass last then last :: placeMark n done
    else n :: last :: done

/-- Composes a text, given a letter and the marks behind it that it does not go together with, the last one
first. A mark is out of reach behind one of the same or a greater class. -/
def composeFrom (letter : Nat) (marks : List Nat) : List Nat → List Nat
  | [] => letter :: marks.reverse
  | n :: rest =>
    let reachable := (marks.head?).all fun last => combiningClass last < combiningClass n
    match if reachable then compose? letter n else none with
    | some composite => composeFrom composite marks rest
    | none =>
      if combiningClass n = 0 then letter :: (marks.reverse ++ composeFrom n [] rest)
      else composeFrom letter (n :: marks) rest

/-- The canonical composition of a text. -/
def normalize (text : List Nat) : List Nat :=
  match ((text.flatMap (decompose 3)).foldl (fun done n => placeMark n done) []).reverse with
  | [] => []
  | first :: rest => composeFrom first [] rest

end FeatureFlags.Unicode
