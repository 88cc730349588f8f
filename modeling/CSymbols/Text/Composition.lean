import CSymbols.Text.CombiningClass

/-! Composed characters, and the form of a text in which all that can be composed is. -/
namespace CSymbols.Text

/-- Marks, some characters, and what each of these becomes by the mark. -/
def letterCompositions : List (Nat × String × String) :=
  [(0x300, "AEINOUWYaeinouwyÂÊÔÜâêôüĂăĒēŌōƠơƯưΑΕΗΙΟΥ", "ÀÈÌǸÒÙẀỲàèìǹòùẁỳẦỀỒǛầềồǜẰằḔḕṐṑỜờỪừᾺῈῊῚῸῪ"),
   (0x300, "ΩαεηιουωϊϋЕИеиἀἁἈἉἐἑἘἙἠἡἨἩἰἱἸἹὀὁὈὉὐὑὙὠὡὨ", "ῺὰὲὴὶὸὺὼῒῢЀЍѐѝἂἃἊἋἒἓἚἛἢἣἪἫἲἳἺἻὂὃὊὋὒὓὛὢὣὪ"),
   (0x300, "Ὡ", "Ὣ"),
   (0x301, "ACEGIKLMNOPRSUWYZacegiklmnoprsuwyzÂÅÆÇÊÏ", "ÁĆÉǴÍḰĹḾŃÓṔŔŚÚẂÝŹáćéǵíḱĺḿńóṕŕśúẃýźẤǺǼḈẾḮ"),
   (0x301, "ÔÕØÜâåæçêïôõøüĂăĒēŌōŨũƠơƯưΑΕΗΙΟΥΩαεηιουω", "ỐṌǾǗấǻǽḉếḯốṍǿǘẮắḖḗṒṓṸṹỚớỨứΆΈΉΊΌΎΏάέήίόύώ"),
   (0x301, "ϊϋϒГКгкἀἁἈἉἐἑἘἙἠἡἨἩἰἱἸἹὀὁὈὉὐὑὙὠὡὨὩ", "ΐΰϓЃЌѓќἄἅἌἍἔἕἜἝἤἥἬἭἴἵἼἽὄὅὌὍὔὕὝὤὥὬὭ"),
   (0x302, "ACEGHIJOSUWYZaceghijosuwyzẠạẸẹỌọ", "ÂĈÊĜĤÎĴÔŜÛŴŶẐâĉêĝĥîĵôŝûŵŷẑẬậỆệỘộ"),
   (0x303, "AEINOUVYaeinouvyÂÊÔâêôĂăƠơƯư", "ÃẼĨÑÕŨṼỸãẽĩñõũṽỹẪỄỖẫễỗẴẵỠỡỮữ"),
   (0x304, "AEGIOUYaegiouyÄÆÕÖÜäæõöüǪǫȦȧȮȯΑΙΥαιυИУиу", "ĀĒḠĪŌŪȲāēḡīōūȳǞǢȬȪǕǟǣȭȫǖǬǭǠǡȰȱᾹῙῩᾱῑῡӢӮӣӯ"),
   (0x304, "ḶḷṚṛ", "ḸḹṜṝ"),
   (0x306, "AEGIOUaegiouȨȩΑΙΥαιυАЕЖИУаежиуẠạ", "ĂĔĞĬŎŬăĕğĭŏŭḜḝᾸῘῨᾰῐῠӐӖӁЙЎӑӗӂйўẶặ"),
   (0x307, "ABCDEFGHIMNOPRSTWXYZabcdefghmnoprstwxyzŚ", "ȦḂĊḊĖḞĠḢİṀṄȮṖṘṠṪẆẊẎŻȧḃċḋėḟġḣṁṅȯṗṙṡṫẇẋẏżṤ"),
   (0x307, "śŠšſṢṣ", "ṥṦṧẛṨṩ"),
   (0x308, "AEHIOUWXYaehiotuwxyÕõŪūΙΥιυϒІАЕЖЗИОУЧЫЭа", "ÄËḦÏÖÜẄẌŸäëḧïöẗüẅẍÿṎṏṺṻΪΫϊϋϔЇӒЁӜӞӤӦӰӴӸӬӓ"),
   (0x308, "ежзиоучыэіӘәӨө", "ёӝӟӥӧӱӵӹӭїӚӛӪӫ"),
   (0x309, "AEIOUYaeiouyÂÊÔâêôĂăƠơƯư", "ẢẺỈỎỦỶảẻỉỏủỷẨỂỔẩểổẲẳỞởỬử"),
   (0x30A, "AUauwy", "ÅŮåůẘẙ"),
   (0x30B, "OUouУу", "ŐŰőűӲӳ"),
   (0x30C, "ACDEGHIKLNORSTUZacdeghijklnorstuzÜüƷʒ", "ǍČĎĚǦȞǏǨĽŇǑŘŠŤǓŽǎčďěǧȟǐǰǩľňǒřšťǔžǙǚǮǯ"),
   (0x30F, "AEIORUaeioruѴѵ", "ȀȄȈȌȐȔȁȅȉȍȑȕѶѷ"),
   (0x311, "AEIORUaeioru", "ȂȆȊȎȒȖȃȇȋȏȓȗ"),
   (0x313, "ΑΕΗΙΟΩαεηιορυω", "ἈἘἨἸὈὨἀἐἠἰὀῤὐὠ"),
   (0x314, "ΑΕΗΙΟΡΥΩαεηιορυω", "ἉἙἩἹὉῬὙὩἁἑἡἱὁῥὑὡ"),
   (0x31B, "OUou", "ƠƯơư"),
   (0x323, "ABDEHIKLMNORSTUVWYZabdehiklmnorstuvwyzƠơ", "ẠḄḌẸḤỊḲḶṂṆỌṚṢṬỤṾẈỴẒạḅḍẹḥịḳḷṃṇọṛṣṭụṿẉỵẓỢợ"),
   (0x323, "Ưư", "Ựự"),
   (0x326, "STst", "ȘȚșț"),
   (0x327, "CDEGHKLNRSTcdeghklnrst", "ÇḐȨĢḨĶĻŅŖŞŢçḑȩģḩķļņŗşţ"),
   (0x328, "AEIOUaeiou", "ĄĘĮǪŲąęįǫų"),
   (0x32D, "DELNTUdelntu", "ḒḘḼṊṰṶḓḙḽṋṱṷ"),
   (0x330, "EIUeiu", "ḚḬṴḛḭṵ"),
   (0x331, "BDKLNRTZbdhklnrtz", "ḆḎḴḺṈṞṮẔḇḏẖḵḻṉṟṯẕ"),
   (0x338, "<=>←→↔⇐⇒⇔∃∈∋∣∥∼≃≅≈≍≡≤≥≲≳≶≷≺≻≼≽⊂⊃⊆⊇⊑⊒⊢⊨⊩⊫", "≮≠≯↚↛↮⇍⇏⇎∄∉∌∤∦≁≄≇≉≭≢≰≱≴≵≸≹⊀⊁⋠⋡⊄⊅⊈⊉⋢⋣⊬⊭⊮⊯"),
   (0x338, "⊲⊳⊴⊵", "⋪⋫⋬⋭"),
   (0x342, "αηιυωϊϋἀἁἈἉἠἡἨἩἰἱἸἹὐὑὙὠὡὨὩ", "ᾶῆῖῦῶῗῧἆἇἎἏἦἧἮἯἶἷἾἿὖὗὟὦὧὮὯ"),
   (0x345, "ΑΗΩάήαηωώἀἁἂἃἄἅἆἇἈἉἊἋἌἍἎἏἠἡἢἣἤἥἦἧἨἩἪἫἬἭἮ", "ᾼῌῼᾴῄᾳῃῳῴᾀᾁᾂᾃᾄᾅᾆᾇᾈᾉᾊᾋᾌᾍᾎᾏᾐᾑᾒᾓᾔᾕᾖᾗᾘᾙᾚᾛᾜᾝᾞ"),
   (0x345, "ἯὠὡὢὣὤὥὦὧὨὩὪὫὬὭὮὯὰὴὼᾶῆῶ", "ᾟᾠᾡᾢᾣᾤᾥᾦᾧᾨᾩᾪᾫᾬᾭᾮᾯᾲῂῲᾷῇῷ"),
   (0x654, "اويہےە", "أؤئۂۓۀ"),
   (0x93C, "नरळ", "ऩऱऴ"),
   (0x1B35, "ᬅᬇᬉᬋᬍᬑ", "ᬆᬈᬊᬌᬎᬒ"),
   (0x3099, "うかきくけこさしすせそたちつてとはひふへほゝウカキクケコサシスセソタチツテトハヒ",
     "ゔがぎぐげござじずぜぞだぢづでどばびぶべぼゞヴガギグゲゴザジズゼゾダヂヅデドバビ"),
   (0x3099, "フヘホワヰヱヲヽ", "ブベボヷヸヹヺヾ"),
   (0x309A, "はひふへほハヒフヘホ", "ぱぴぷぺぽパピプペポ")]

/-- Further characters, the signs that may follow them, and what both become together. -/
def signCompositions : List (Nat × Nat × Nat) :=
  [(0x41, 0x325, 0x1E00), (0x48, 0x32E, 0x1E2A), (0x55, 0x324, 0x1E72), (0x61, 0x325, 0x1E01),
   (0x68, 0x32E, 0x1E2B), (0x75, 0x324, 0x1E73), (0xA8, 0x300, 0x1FED), (0xA8, 0x301, 0x385),
   (0xA8, 0x342, 0x1FC1), (0x627, 0x653, 0x622), (0x627, 0x655, 0x625), (0x9C7, 0x9BE, 0x9CB),
   (0x9C7, 0x9D7, 0x9CC), (0xB47, 0xB3E, 0xB4B), (0xB47, 0xB56, 0xB48), (0xB47, 0xB57, 0xB4C),
   (0xB92, 0xBD7, 0xB94), (0xBC6, 0xBBE, 0xBCA), (0xBC6, 0xBD7, 0xBCC), (0xBC7, 0xBBE, 0xBCB),
   (0xC46, 0xC56, 0xC48), (0xCBF, 0xCD5, 0xCC0), (0xCC6, 0xCC2, 0xCCA), (0xCC6, 0xCD5, 0xCC7),
   (0xCC6, 0xCD6, 0xCC8), (0xCCA, 0xCD5, 0xCCB), (0xD46, 0xD3E, 0xD4A), (0xD46, 0xD57, 0xD4C),
   (0xD47, 0xD3E, 0xD4B), (0xDD9, 0xDCA, 0xDDA), (0xDD9, 0xDCF, 0xDDC), (0xDD9, 0xDDF, 0xDDE),
   (0xDDC, 0xDCA, 0xDDD), (0x1025, 0x102E, 0x1026), (0x1B3A, 0x1B35, 0x1B3B),
   (0x1B3C, 0x1B35, 0x1B3D), (0x1B3E, 0x1B35, 0x1B40), (0x1B3F, 0x1B35, 0x1B41),
   (0x1B42, 0x1B35, 0x1B43), (0x1FBF, 0x300, 0x1FCD), (0x1FBF, 0x301, 0x1FCE),
   (0x1FBF, 0x342, 0x1FCF), (0x1FFE, 0x300, 0x1FDD), (0x1FFE, 0x301, 0x1FDE),
   (0x1FFE, 0x342, 0x1FDF), (0x105D2, 0x307, 0x105C9), (0x105DA, 0x307, 0x105E4),
   (0x11099, 0x110BA, 0x1109A), (0x1109B, 0x110BA, 0x1109C), (0x110A5, 0x110BA, 0x110AB),
   (0x11131, 0x11127, 0x1112E), (0x11132, 0x11127, 0x1112F), (0x11347, 0x1133E, 0x1134B),
   (0x11347, 0x11357, 0x1134C), (0x11382, 0x113C9, 0x11383), (0x11384, 0x113BB, 0x11385),
   (0x1138B, 0x113C2, 0x1138E), (0x11390, 0x113C9, 0x11391), (0x113C2, 0x113B8, 0x113C7),
   (0x113C2, 0x113C2, 0x113C5), (0x113C2, 0x113C9, 0x113C8), (0x114B9, 0x114B0, 0x114BC),
   (0x114B9, 0x114BA, 0x114BB), (0x114B9, 0x114BD, 0x114BE), (0x115B8, 0x115AF, 0x115BA),
   (0x115B9, 0x115AF, 0x115BB), (0x11935, 0x11930, 0x11938), (0x1611E, 0x1611E, 0x16121),
   (0x1611E, 0x1611F, 0x16123), (0x1611E, 0x16120, 0x16125), (0x1611E, 0x16129, 0x16122),
   (0x16121, 0x1611F, 0x16126), (0x16121, 0x16120, 0x16128), (0x16122, 0x1611F, 0x16127),
   (0x16129, 0x1611F, 0x16124), (0x16D63, 0x16D67, 0x16D69), (0x16D67, 0x16D67, 0x16D68),
   (0x16D69, 0x16D67, 0x16D6A)]

/-- All pairs of characters that have a composed form, with that form. -/
def compositions : List ((Char × Char) × Char) :=
  (letterCompositions.flatMap fun (mark, bases, composed) =>
    (bases.toList.zip composed.toList).map fun (a, c) => ((a, Char.ofNat mark), c)) ++
  signCompositions.map fun (a, b, c) => ((Char.ofNat a, Char.ofNat b), Char.ofNat c)

/-- Hangul: the first code points of the leading consonants, the vowels, the trailing consonants and
the syllables. A syllable has one of 19, one of 21 and at most one of 27 of these. -/
def leadBase : Nat := 0x1100
def vowelBase : Nat := 0x1161
def trailBase : Nat := 0x11A7
def syllableBase : Nat := 0xAC00

/-- The syllable of two letters, or of a syllable without a trailing consonant and one. -/
def syllable? (a b : Nat) : Option Nat :=
  if leadBase ≤ a && a < leadBase + 19 && vowelBase ≤ b && b < vowelBase + 21 then
    some (syllableBase + ((a - leadBase) * 21 + (b - vowelBase)) * 28)
  else if syllableBase ≤ a && a < syllableBase + 11172 && (a - syllableBase) % 28 == 0 &&
      trailBase < b && b < trailBase + 28 then
    some (a + (b - trailBase))
  else none

/-- The composed form of two characters. -/
def composed? (a b : Char) : Option Char :=
  ((syllable? a.toNat b.toNat).map Char.ofNat).or (compositions.lookup (a, b))

/-- The two characters that a character is composed of. -/
def parts? (c : Char) : Option (Char × Char) :=
  let n := c.toNat
  if syllableBase ≤ n && n < syllableBase + 11172 then
    let i := n - syllableBase
    if i % 28 == 0 then
      some (Char.ofNat (leadBase + i / 588), Char.ofNat (vowelBase + i % 588 / 28))
    else some (Char.ofNat (n - i % 28), Char.ofNat (trailBase + i % 28))
  else (compositions.find? (·.2 == c)).map Prod.fst

/-- How often a character can be taken apart. -/
def maxDepth : Nat := 4

/-- A character taken apart as far as that goes. -/
def decompose : Nat → Char → List Char
  | 0, c => [c]
  | depth + 1, c =>
    match parts? c with
    | none => [c]
    | some (a, b) => decompose depth a ++ [b]

/-- Puts a mark behind those of lower class that follow it. -/
def settle (c : Char) : List Char → List Char
  | [] => [c]
  | d :: ds =>
    if 0 < combiningClass d && combiningClass d < combiningClass c then d :: settle c ds
    else c :: d :: ds

/-- Joins characters to the one that begins, if no mark of the same class or a higher one stands in
between. The marks that stay behind it are given in reverse. -/
def compose (first : Option Char) (behind : List Char) : List Char → List Char
  | [] => first.toList ++ behind.reverse
  | c :: cs =>
    let isFree := match behind with
      | [] => true
      | d :: _ => combiningClass d < combiningClass c
    match (if isFree then first else none).bind (composed? · c) with
    | some x => compose (some x) behind cs
    | none =>
      if combiningClass c = 0 then first.toList ++ behind.reverse ++ compose (some c) [] cs
      else compose first (c :: behind) cs

/-- The composed form of a text. -/
def normal (cs : List Char) : List Char :=
  if cs.all (·.toNat < 0x80) then cs
  else compose none [] ((cs.flatMap (decompose maxDepth)).foldr settle [])

end CSymbols.Text
