import EvmClient.Text.Parts

/-
Characters composed of two others.

   The rows hold the pairs with small letters and signs; the pairs of capital letters are left out. Hangul
   syllables are composed by their numbers: of a leading and a vowel letter, and of such a syllable and a
   trailing letter. -/
namespace EvmClient.Text.Composition

/-- A row holds a second character, and a word for each pair: the composed character and the first one. -/
def rows : List (Nat × String) :=
  [(0x300, "àa èe ìi òo ùu ǜü ǹn ѐе ѝи ḕē ṑō ẁw ầâ ằă ềê ồô ờơ ừư ỳy ἂἀ ἃἁ ἒἐ ἓἑ ἢἠ ἣἡ ἲἰ ἳἱ"),
   (0x300, "ὂὀ ὃὁ ὒὐ ὓὑ ὢὠ ὣὡ ὰα ὲε ὴη ὶι ὸο ὺυ ὼω ῒϊ ῢϋ"),
   (0x301, "áa ée íi óo úu ýy ćc ĺl ńn ŕr śs źz ǘü ǵg ǻå ǽæ ǿø ΐϊ άα έε ήη ίι ΰϋ όο ύυ ώω ѓг"),
   (0x301, "ќк ḉç ḗē ḯï ḱk ḿm ṍõ ṓō ṕp ṹũ ẃw ấâ ắă ếê ốô ớơ ứư ἄἀ ἅἁ ἔἐ ἕἑ ἤἠ ἥἡ ἴἰ ἵἱ ὄὀ ὅὁ"),
   (0x301, "ὔὐ ὕὑ ὤὠ ὥὡ"), (0x302, "âa êe îi ôo ûu ĉc ĝg ĥh ĵj ŝs ŵw ŷy ẑz ậạ ệẹ ộọ"),
   (0x303, "ãa ñn õo ĩi ũu ṽv ẫâ ẵă ẽe ễê ỗô ỡơ ữư ỹy"),
   (0x304, "āa ēe īi ōo ūu ǖü ǟä ǡȧ ǣæ ǭǫ ȫö ȭõ ȱȯ ȳy ӣи ӯу ḡg ḹḷ ṝṛ ᾱα ῑι ῡυ"),
   (0x306, "ăa ĕe ğg ĭi ŏo ŭu йи ўу ӂж ӑа ӗе ḝȩ ặạ ᾰα ῐι ῠυ"),
   (0x307, "ċc ėe ġg żz ȧa ȯo ḃb ḋd ḟf ḣh ṁm ṅn ṗp ṙr ṡs ṥś ṧš ṩṣ ṫt ẇw ẋx ẏy 𐗉𐗒 𐗤𐗚"),
   (0x308, "äa ëe ïi öo üu ÿy ϊι ϋυ ёе їі ӓа ӛә ӝж ӟз ӥи ӧо ӫө ӭэ ӱу ӵч ӹы ḧh ṏõ ṻū ẅw ẍx ẗt"),
   (0x309, "ảa ẩâ ẳă ẻe ểê ỉi ỏo ổô ởơ ủu ửư ỷy"), (0x30a, "åa ůu ẘw ẙy"), (0x30b, "őo űu ӳу"),
   (0x30c, "čc ďd ěe ľl ňn řr šs ťt žz ǎa ǐi ǒo ǔu ǚü ǧg ǩk ǯʒ ǰj ȟh"), (0x30f, "ȁa ȅe ȉi ȍo ȑr ȕu ѷѵ"),
   (0x311, "ȃa ȇe ȋi ȏo ȓr ȗu"), (0x313, "ἀα ἐε ἠη ἰι ὀο ὐυ ὠω ῤρ"), (0x314, "ἁα ἑε ἡη ἱι ὁο ὑυ ὡω ῥρ"),
   (0x31b, "ơo ưu"), (0x323, "ḅb ḍd ḥh ḳk ḷl ṃm ṇn ṛr ṣs ṭt ṿv ẉw ẓz ạa ẹe ịi ọo ợơ ụu ựư ỵy"), (0x324, "ṳu"),
   (0x325, "ḁa"), (0x326, "șs țt"), (0x327, "çc ģg ķk ļl ņn ŗr şs ţt ȩe ḑd ḩh"), (0x328, "ąa ęe įi ųu ǫo"),
   (0x32d, "ḓd ḙe ḽl ṋn ṱt ṷu"), (0x32e, "ḫh"), (0x330, "ḛe ḭi ṵu"), (0x331, "ḇb ḏd ḵk ḻl ṉn ṟr ṯt ẕz ẖh"),
   (0x338, "↚← ↛→ ↮↔ ⇍⇐ ⇎⇔ ⇏⇒ ∄∃ ∉∈ ∌∋ ∤∣ ∦∥ ≁∼ ≄≃ ≇≅ ≉≈ ≠= ≢≡ ≭≍ ≮< ≯> ≰≤ ≱≥ ≴≲ ≵≳ ≸≶ ≹≷ ⊀≺"),
   (0x338, "⊁≻ ⊄⊂ ⊅⊃ ⊈⊆ ⊉⊇ ⊬⊢ ⊭⊨ ⊮⊩ ⊯⊫ ⋠≼ ⋡≽ ⋢⊑ ⋣⊒ ⋪⊲ ⋫⊳ ⋬⊴ ⋭⊵"),
   (0x342, "ἆἀ ἇἁ ἦἠ ἧἡ ἶἰ ἷἱ ὖὐ ὗὑ ὦὠ ὧὡ ᾶα ῆη ῖι ῗϊ ῦυ ῧϋ ῶω"), (0x653, "آا"), (0x654, "أا ؤو ئي ۀە ۂہ ۓے"),
   (0x655, "إا"), (0x93c, "ऩन ऱर ऴळ"), (0x9be, "োে"), (0x9d7, "ৌে"), (0xb3e, "ୋେ"), (0xb56, "ୈେ"), (0xb57, "ୌେ"),
   (0xbbe, "ொெ ோே"), (0xbd7, "ஔஒ ௌெ"), (0xc56, "ైె"), (0xcc2, "ೊೆ"), (0xcd5, "ೀಿ ೇೆ ೋೊ"), (0xcd6, "ೈೆ"),
   (0xd3e, "ൊെ ോേ"), (0xd57, "ൌെ"), (0xdca, "ේෙ ෝො"), (0xdcf, "ොෙ"), (0xddf, "ෞෙ"), (0x102e, "ဦဥ"),
   (0x1b35, "ᬆᬅ ᬈᬇ ᬊᬉ ᬌᬋ ᬎᬍ ᬒᬑ ᬻᬺ ᬽᬼ ᭀᬾ ᭁᬿ ᭃᭂ"),
   (0x3099, "がか ぎき ぐく げけ ごこ ざさ じし ずす ぜせ ぞそ だた ぢち づつ でて どと ばは びひ ぶふ べへ ぼほ ゔう ゞゝ ガカ ギキ グク ゲケ ゴコ"),
   (0x3099, "ザサ ジシ ズス ゼセ ゾソ ダタ ヂチ ヅツ デテ ドト バハ ビヒ ブフ ベヘ ボホ ヴウ ヷワ ヸヰ ヹヱ ヺヲ ヾヽ"),
   (0x309a, "ぱは ぴひ ぷふ ぺへ ぽほ パハ ピヒ プフ ペヘ ポホ"), (0x110ba, "𑂚𑂙 𑂜𑂛 𑂫𑂥"), (0x11127, "𑄮𑄱 𑄯𑄲"), (0x1133e, "𑍋𑍇"),
   (0x11357, "𑍌𑍇"), (0x113b8, "𑏇𑏂"), (0x113bb, "𑎅𑎄"), (0x113c2, "𑎎𑎋 𑏅𑏂"), (0x113c9, "𑎃𑎂 𑎑𑎐 𑏈𑏂"), (0x114b0, "𑒼𑒹"),
   (0x114ba, "𑒻𑒹"), (0x114bd, "𑒾𑒹"), (0x115af, "𑖺𑖸 𑖻𑖹"), (0x11930, "𑤸𑤵"), (0x1611e, "𖄡𖄞"), (0x1611f, "𖄣𖄞 𖄤𖄩 𖄦𖄡 𖄧𖄢"),
   (0x16120, "𖄥𖄞 𖄨𖄡"), (0x16129, "𖄢𖄞"), (0x16d67, "𖵨𖵧 𖵩𖵣 𖵪𖵩")]

/-- The pairs of the rows: the second character, the first one and the composed one. -/
def pairs : List (Char × Char × Char) :=
  rows.flatMap fun (second, words) =>
    (parts ' ' words.toList).filterMap fun
      | [composed, first] => some (Char.ofNat second, first, composed)
      | _ => none

/-! ## Hangul -/

/-- The first syllable, and the numbers before the first letter of each kind that composes. -/
def syllable : Nat := 0xac00
def leading : Nat := 0x1100
def vowel : Nat := 0x1161
def trailing : Nat := 0x11a7

def isSyllable (n : Nat) : Bool := syllable ≤ n && n < syllable + 19 * 21 * 28

def hangul? (a b : Nat) : Option Nat :=
  if leading ≤ a ∧ a < leading + 19 ∧ vowel ≤ b ∧ b < vowel + 21 then
    some (syllable + ((a - leading) * 21 + (b - vowel)) * 28)
  else if isSyllable a ∧ (a - syllable) % 28 = 0 ∧ trailing < b ∧ b < trailing + 28 then some (a + (b - trailing))
  else none

def hangulParts? (n : Nat) : Option (Nat × Nat) :=
  if isSyllable n then
    let i := n - syllable
    if i % 28 = 0 then some (leading + i / 588, vowel + i % 588 / 28) else some (n - i % 28, trailing + i % 28)
  else none

end EvmClient.Text.Composition

namespace EvmClient.Text

/-- The character that two others compose. Below `0x300` there is no second one. -/
def composed? (a b : Char) : Option Char :=
  if b.toNat < 0x300 then none
  else
    match Composition.hangul? a.toNat b.toNat with
    | some n => some (Char.ofNat n)
    | none => (Composition.pairs.find? fun (second, first, _) => second == b && first == a).map (·.2.2)

/-- The two characters that compose a character. Below `0xc0` none is composed. -/
def components? (c : Char) : Option (Char × Char) :=
  if c.toNat < 0xc0 then none
  else
    match Composition.hangulParts? c.toNat with
    | some (a, b) => some (Char.ofNat a, Char.ofNat b)
    | none => (Composition.pairs.find? (·.2.2 == c)).map fun (second, first, _) => (first, second)

end EvmClient.Text
