import AmqpEndpoints.Url.Domain.Mark

/-!
# Composition

A character with marks may be written in several ways, of which the composed form is one: the marks
of a character stand in the order of their classes, and a mark that makes one character with the
character before it is taken into that. Syllables of Hangul are composed by a rule, others by a
table, which tells, as in Unicode 17, of the characters that a domain may hold.
-/

set_option autoImplicit false

namespace AmqpEndpoints.Url.Domain

/-!
## Pairs
-/

/-- A mark, the characters that it combines with, and what each of them becomes. -/
structure Combination where
  mark : Nat
  bases : String
  /-- What the bases become, in the order of the bases. -/
  composites : String
  deriving DecidableEq, Repr

namespace Combination

def compose? (combination : Combination) (base : Char) : Option Char :=
  (combination.bases.toList.zip combination.composites.toList).lookup base

def base? (combination : Combination) (composite : Char) : Option Char :=
  (combination.composites.toList.zip combination.bases.toList).lookup composite

end Combination

def combinations : List Combination :=
  [
   ⟨0x300, "aeiouünеиēōwâăêôơưyἀἁἐἑἠἡἰἱὀὁὐὑὠ", "àèìòùǜǹѐѝḕṑẁầằềồờừỳἂἃἒἓἢἣἲἳὂὃὒὓὢ"⟩,
   ⟨0x300, "ὡαεηιουωϊϋ", "ὣὰὲὴὶὸὺὼῒῢ"⟩,
   ⟨0x301, "aeiouyclnrszügåæøϊαεηιϋουωгкçēïk", "áéíóúýćĺńŕśźǘǵǻǽǿΐάέήίΰόύώѓќḉḗḯḱ"⟩,
   ⟨0x301, "mõōpũwâăêôơưἀἁἐἑἠἡἰἱὀὁὐὑὠὡ", "ḿṍṓṕṹẃấắếốớứἄἅἔἕἤἥἴἵὄὅὔὕὤὥ"⟩,
   ⟨0x302, "aeioucghjswyzạẹọ", "âêîôûĉĝĥĵŝŵŷẑậệộ"⟩, ⟨0x303, "anoiuvâăeêôơưy", "ãñõĩũṽẫẵẽễỗỡữỹ"⟩,
   ⟨0x304, "aeiouüäȧæǫöõȯyиуgḷṛαιυ", "āēīōūǖǟǡǣǭȫȭȱȳӣӯḡḹṝᾱῑῡ"⟩,
   ⟨0x306, "aegiouиужаеȩạαιυ", "ăĕğĭŏŭйўӂӑӗḝặᾰῐῠ"⟩,
   ⟨0x307, "cegzaobdfhmnprsśšṣtwxy𐗒𐗚", "ċėġżȧȯḃḋḟḣṁṅṗṙṡṥṧṩṫẇẋẏ𐗉𐗤"⟩,
   ⟨0x308, "aeiouyιυеіаәжзиоөэучыhõūwxt", "äëïöüÿϊϋёїӓӛӝӟӥӧӫӭӱӵӹḧṏṻẅẍẗ"⟩,
   ⟨0x309, "aâăeêioôơuưy", "ảẩẳẻểỉỏổởủửỷ"⟩, ⟨0x30A, "auwy", "åůẘẙ"⟩, ⟨0x30B, "ouу", "őűӳ"⟩,
   ⟨0x30C, "cdelnrstzaiouügkʒjh", "čďěľňřšťžǎǐǒǔǚǧǩǯǰȟ"⟩, ⟨0x30F, "aeioruѵ", "ȁȅȉȍȑȕѷ"⟩,
   ⟨0x311, "aeioru", "ȃȇȋȏȓȗ"⟩, ⟨0x313, "αεηιουωρ", "ἀἐἠἰὀὐὠῤ"⟩, ⟨0x314, "αεηιουωρ", "ἁἑἡἱὁὑὡῥ"⟩,
   ⟨0x31B, "ou", "ơư"⟩, ⟨0x323, "bdhklmnrstvwzaeioơuưy", "ḅḍḥḳḷṃṇṛṣṭṿẉẓạẹịọợụựỵ"⟩,
   ⟨0x324, "u", "ṳ"⟩, ⟨0x325, "a", "ḁ"⟩, ⟨0x326, "st", "șț"⟩,
   ⟨0x327, "cgklnrstedh", "çģķļņŗşţȩḑḩ"⟩, ⟨0x328, "aeiuo", "ąęįųǫ"⟩, ⟨0x32D, "delntu", "ḓḙḽṋṱṷ"⟩,
   ⟨0x32E, "h", "ḫ"⟩, ⟨0x330, "eiu", "ḛḭṵ"⟩, ⟨0x331, "bdklnrtzh", "ḇḏḵḻṉṟṯẕẖ"⟩,
   ⟨0x338, "←→↔⇐⇔⇒∃∈∋∣∥∼≃≅≈=≡≍<>≤≥≲≳≶≷≺≻⊂⊃⊆⊇", "↚↛↮⇍⇎⇏∄∉∌∤∦≁≄≇≉≠≢≭≮≯≰≱≴≵≸≹⊀⊁⊄⊅⊈⊉"⟩,
   ⟨0x338, "⊢⊨⊩⊫≼≽⊑⊒⊲⊳⊴⊵", "⊬⊭⊮⊯⋠⋡⋢⋣⋪⋫⋬⋭"⟩, ⟨0x342, "ἀἁἠἡἰἱὐὑὠὡαηιϊυϋω", "ἆἇἦἧἶἷὖὗὦὧᾶῆῖῗῦῧῶ"⟩,
   ⟨0x653, "\u0627", "\u0622"⟩,
   ⟨0x654, "\u0627\u0648\u064a\u06d5\u06c1\u06d2", "\u0623\u0624\u0626\u06c0\u06c2\u06d3"⟩,
   ⟨0x655, "\u0627", "\u0625"⟩, ⟨0x93C, "नरळ", "ऩऱऴ"⟩, ⟨0x9BE, "\u09c7", "\u09cb"⟩,
   ⟨0x9D7, "\u09c7", "\u09cc"⟩, ⟨0xB3E, "\u0b47", "\u0b4b"⟩, ⟨0xB56, "\u0b47", "\u0b48"⟩,
   ⟨0xB57, "\u0b47", "\u0b4c"⟩, ⟨0xBBE, "\u0bc6\u0bc7", "\u0bca\u0bcb"⟩,
   ⟨0xBD7, "ஒ\u0bc6", "ஔ\u0bcc"⟩, ⟨0xC56, "\u0c46", "\u0c48"⟩, ⟨0xCC2, "\u0cc6", "\u0cca"⟩,
   ⟨0xCD5, "\u0cbf\u0cc6\u0cca", "\u0cc0\u0cc7\u0ccb"⟩, ⟨0xCD6, "\u0cc6", "\u0cc8"⟩,
   ⟨0xD3E, "\u0d46\u0d47", "\u0d4a\u0d4b"⟩, ⟨0xD57, "\u0d46", "\u0d4c"⟩,
   ⟨0xDCA, "\u0dd9\u0ddc", "\u0dda\u0ddd"⟩, ⟨0xDCF, "\u0dd9", "\u0ddc"⟩,
   ⟨0xDDF, "\u0dd9", "\u0dde"⟩, ⟨0x102E, "ဥ", "ဦ"⟩,
   ⟨0x1B35, "ᬅᬇᬉᬋᬍᬑ\u1b3a\u1b3c\u1b3e\u1b3f\u1b42", "ᬆᬈᬊᬌᬎᬒ\u1b3b\u1b3d\u1b40\u1b41\u1b43"⟩,
   ⟨0x3099, "かきくけこさしすせそたちつてとはひふへほうゝカキクケコサシスセソ", "がぎぐげござじずぜぞだぢづでどばびぶべぼゔゞガギグゲゴザジズゼゾ"⟩,
   ⟨0x3099, "タチツテトハヒフヘホウワヰヱヲヽ", "ダヂヅデドバビブベボヴヷヸヹヺヾ"⟩, ⟨0x309A, "はひふへほハヒフヘホ", "ぱぴぷぺぽパピプペポ"⟩,
   ⟨0x110BA, "𑂙𑂛𑂥", "𑂚𑂜𑂫"⟩, ⟨0x11127, "𑄱𑄲", "𑄮𑄯"⟩, ⟨0x1133E, "𑍇", "𑍋"⟩, ⟨0x11357, "𑍇", "𑍌"⟩,
   ⟨0x113B8, "𑏂", "𑏇"⟩, ⟨0x113BB, "𑎄", "𑎅"⟩, ⟨0x113C2, "𑎎", "𑎎𑏅"⟩, ⟨0x113C9, "𑎂𑎐𑏂", "𑎃𑎑𑏈"⟩,
   ⟨0x114B0, "𑒹", "𑒼"⟩, ⟨0x114BA, "𑒹", "𑒻"⟩, ⟨0x114BD, "𑒹", "𑒾"⟩, ⟨0x115AF, "𑖸𑖹", "𑖺𑖻"⟩,
   ⟨0x11930, "𑤵", "𑤸"⟩, ⟨0x1611E, "𖄞", "𖄡"⟩, ⟨0x1611F, "𖄢𖄡𖄢", "𖄣𖄤𖄦𖄧"⟩, ⟨0x16120, "𖄡𖄞", "𖄥𖄨"⟩,
   ⟨0x16129, "𖄞", "𖄢"⟩, ⟨0x16D67, "𖵧𖵣𖵩", "𖵨𖵩𖵪"⟩]

/-- The number of the first syllable of Hangul. -/
def firstSyllable : Nat := 0xAC00

/-- The number of the last syllable of Hangul. -/
def lastSyllable : Nat := 0xD7A3

/-- The syllable of Hangul that two characters make: a consonant and a vowel, or an open syllable
and a consonant that closes it. -/
def composeSyllable? (first second : Char) : Option Char :=
  let left := first.toNat
  let right := second.toNat
  if 0x1100 ≤ left && left ≤ 0x1112 && 0x1161 ≤ right && right ≤ 0x1175 then
    some (Char.ofNat (firstSyllable + ((left - 0x1100) * 21 + (right - 0x1161)) * 28))
  else if firstSyllable ≤ left && left ≤ lastSyllable && (left - firstSyllable) % 28 == 0 &&
      0x11A8 ≤ right && right ≤ 0x11C2 then
    some (Char.ofNat (left + (right - 0x11A7)))
  else none

def splitSyllable? (c : Char) : Option (Char × Char) :=
  if firstSyllable ≤ c.toNat && c.toNat ≤ lastSyllable then
    let index := c.toNat - firstSyllable
    if index % 28 == 0 then
      some (Char.ofNat (0x1100 + index / 28 / 21), Char.ofNat (0x1161 + index / 28 % 21))
    else some (Char.ofNat (c.toNat - index % 28), Char.ofNat (0x11A7 + index % 28))
  else none

def composePair? (first second : Char) : Option Char :=
  match composeSyllable? first second with
  | some syllable => some syllable
  | none =>
    combinations.findSome? fun combination =>
      if combination.mark = second.toNat then combination.compose? first else none

def splitPair? (c : Char) : Option (Char × Char) :=
  match splitSyllable? c with
  | some pair => some pair
  | none =>
    combinations.findSome? fun combination =>
      (combination.base? c).map fun base => (base, Char.ofNat combination.mark)

/-!
## Texts
-/

/-- The characters that make a character, where the first of a pair is split again so many times. -/
def partsWithin : Nat → Char → List Char
  | 0, c => [c]
  | depth + 1, c =>
    match splitPair? c with
    | some (base, mark) => partsWithin depth base ++ [mark]
    | none => [c]

/-- The characters that make a character. No character is made of more than three. -/
def parts (c : Char) : List Char :=
  partsWithin 2 c

/-- Puts a character behind a text, given from its end. A mark moves before the marks of a greater
class. -/
def placeMark (c : Char) : List Char → List Char
  | [] => [c]
  | last :: before =>
    if 0 < combiningClass c && combiningClass c < combiningClass last then
      last :: placeMark c before
    else c :: last :: before

/-- A text with the marks of each character in the order of their classes. -/
def orderMarks (text : List Char) : List Char :=
  (text.foldl (fun before c => placeMark c before) []).reverse

/-- Whether a character behind ordered marks, given last one first, can combine with the character
before them: all of them have lesser classes. -/
def reachesOver (c : Char) : List Char → Bool
  | [] => true
  | last :: _ => combiningClass last < combiningClass c

/-- The composed form of a character, of the marks behind it, given last one first, and of a text
behind these. -/
def composeFrom (base : Char) (marks : List Char) : List Char → List Char
  | [] => base :: marks.reverse
  | c :: rest =>
    match if reachesOver c marks then composePair? base c else none with
    | some composite => composeFrom composite marks rest
    | none =>
      if combiningClass c = 0 then base :: (marks.reverse ++ composeFrom c [] rest)
      else composeFrom base (c :: marks) rest

/-- The composed form of a text of single characters with their marks in order. -/
def composeParts : List Char → List Char
  | [] => []
  | c :: rest =>
    if combiningClass c = 0 then composeFrom c [] rest else c :: composeParts rest

def composed (text : List Char) : List Char :=
  composeParts (orderMarks (text.flatMap parts))

end AmqpEndpoints.Url.Domain
