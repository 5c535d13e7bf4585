import StaticServer.Text.Words

/-!
# Composite characters

A character and the mark behind it may have a character of their own, the composite of the two. Only composites that
a domain name may hold are listed; the syllables of Hangul are composed by a rule.
-/

namespace StaticServer

namespace Target

namespace Host

namespace Composition

/-- For each second part, the first parts, each with the composite behind it. -/
def compositeLines : List (Nat × String) :=
  [(0x300, "aà eè iì nǹ oò uù wẁ yỳ âầ êề ôồ üǜ ăằ ēḕ ōṑ ơờ ưừ αὰ εὲ ηὴ ιὶ οὸ υὺ ωὼ ϊῒ ϋῢ еѐ иѝ ἀἂ ἁἃ ἐἒ ἑἓ"),
    (0x300, "ἠἢ ἡἣ ἰἲ ἱἳ ὀὂ ὁὃ ὐὒ ὑὓ ὠὢ ὡὣ"),
    (0x301, "aá cć eé gǵ ií kḱ lĺ mḿ nń oó pṕ rŕ sś uú wẃ yý zź âấ åǻ æǽ çḉ êế ïḯ ôố õṍ øǿ üǘ ăắ ēḗ ōṓ ũṹ ơớ"),
    (0x301, "ưứ αά εέ ηή ιί οό υύ ωώ ϊΐ ϋΰ гѓ кќ ἀἄ ἁἅ ἐἔ ἑἕ ἠἤ ἡἥ ἰἴ ἱἵ ὀὄ ὁὅ ὐὔ ὑὕ ὠὤ ὡὥ"),
    (0x302, "aâ cĉ eê gĝ hĥ iî jĵ oô sŝ uû wŵ yŷ zẑ ạậ ẹệ ọộ"),
    (0x303, "aã eẽ iĩ nñ oõ uũ vṽ yỹ âẫ êễ ôỗ ăẵ ơỡ ưữ"),
    (0x304, "aā eē gḡ iī oō uū yȳ äǟ æǣ õȭ öȫ üǖ ǫǭ ȧǡ ȯȱ αᾱ ιῑ υῡ иӣ уӯ ḷḹ ṛṝ"),
    (0x306, "aă eĕ gğ iĭ oŏ uŭ ȩḝ αᾰ ιῐ υῠ аӑ еӗ жӂ ий уў ạặ"),
    (0x307, "aȧ bḃ cċ dḋ eė fḟ gġ hḣ mṁ nṅ oȯ pṗ rṙ sṡ tṫ wẇ xẋ yẏ zż śṥ šṧ ṣṩ 𐗒𐗉 𐗚𐗤"),
    (0x308, "aä eë hḧ iï oö tẗ uü wẅ xẍ yÿ õṏ ūṻ ιϊ υϋ аӓ её жӝ зӟ иӥ оӧ уӱ чӵ ыӹ эӭ ії әӛ өӫ"),
    (0x309, "aả eẻ iỉ oỏ uủ yỷ âẩ êể ôổ ăẳ ơở ưử"),
    (0x30A, "aå uů wẘ yẙ"),
    (0x30B, "oő uű уӳ"),
    (0x30C, "aǎ cč dď eě gǧ hȟ iǐ jǰ kǩ lľ nň oǒ rř sš tť uǔ zž üǚ ʒǯ"),
    (0x30F, "aȁ eȅ iȉ oȍ rȑ uȕ ѵѷ"),
    (0x311, "aȃ eȇ iȋ oȏ rȓ uȗ"),
    (0x313, "αἀ εἐ ηἠ ιἰ οὀ ρῤ υὐ ωὠ"),
    (0x314, "αἁ εἑ ηἡ ιἱ οὁ ρῥ υὑ ωὡ"),
    (0x31B, "oơ uư"),
    (0x323, "aạ bḅ dḍ eẹ hḥ iị kḳ lḷ mṃ nṇ oọ rṛ sṣ tṭ uụ vṿ wẉ yỵ zẓ ơợ ưự"),
    (0x324, "uṳ"),
    (0x325, "aḁ"),
    (0x326, "sș tț"),
    (0x327, "cç dḑ eȩ gģ hḩ kķ lļ nņ rŗ sş tţ"),
    (0x328, "aą eę iį oǫ uų"),
    (0x32D, "dḓ eḙ lḽ nṋ tṱ uṷ"),
    (0x32E, "hḫ"),
    (0x330, "eḛ iḭ uṵ"),
    (0x331, "bḇ dḏ hẖ kḵ lḻ nṉ rṟ tṯ zẕ"),
    (0x338, "<≮ =≠ >≯ ←↚ →↛ ↔↮ ⇐⇍ ⇒⇏ ⇔⇎ ∃∄ ∈∉ ∋∌ ∣∤ ∥∦ ∼≁ ≃≄ ≅≇ ≈≉ ≍≭ ≡≢ ≤≰ ≥≱ ≲≴ ≳≵ ≶≸ ≷≹ ≺⊀ ≻⊁ ≼⋠ ≽⋡ ⊂⊄ ⊃⊅"),
    (0x338, "⊆⊈ ⊇⊉ ⊑⋢ ⊒⋣ ⊢⊬ ⊨⊭ ⊩⊮ ⊫⊯ ⊲⋪ ⊳⋫ ⊴⋬ ⊵⋭"),
    (0x342, "αᾶ ηῆ ιῖ υῦ ωῶ ϊῗ ϋῧ ἀἆ ἁἇ ἠἦ ἡἧ ἰἶ ἱἷ ὐὖ ὑὗ ὠὦ ὡὧ"),
    (0x653, "اآ"),
    (0x654, "اأ وؤ يئ ہۂ ےۓ ەۀ"),
    (0x655, "اإ"),
    (0x93C, "नऩ रऱ ळऴ"),
    (0x9BE, "েো"),
    (0x9D7, "েৌ"),
    (0xB3E, "େୋ"),
    (0xB56, "େୈ"),
    (0xB57, "େୌ"),
    (0xBBE, "ெொ ேோ"),
    (0xBD7, "ஒஔ ெௌ"),
    (0xC56, "ెై"),
    (0xCC2, "ೆೊ"),
    (0xCD5, "ಿೀ ೆೇ ೊೋ"),
    (0xCD6, "ೆೈ"),
    (0xD3E, "െൊ േോ"),
    (0xD57, "െൌ"),
    (0xDCA, "ෙේ ොෝ"),
    (0xDCF, "ෙො"),
    (0xDDF, "ෙෞ"),
    (0x102E, "ဥဦ"),
    (0x1B35, "ᬅᬆ ᬇᬈ ᬉᬊ ᬋᬌ ᬍᬎ ᬑᬒ ᬺᬻ ᬼᬽ ᬾᭀ ᬿᭁ ᭂᭃ"),
    (0x3099, "うゔ かが きぎ くぐ けげ こご さざ しじ すず せぜ そぞ ただ ちぢ つづ てで とど はば ひび ふぶ"),
    (0x3099, "へべ ほぼ ゝゞ ウヴ カガ キギ クグ ケゲ コゴ サザ シジ スズ セゼ ソゾ タダ チヂ ツヅ テデ トド"),
    (0x3099, "ハバ ヒビ フブ ヘベ ホボ ワヷ ヰヸ ヱヹ ヲヺ ヽヾ"),
    (0x309A, "はぱ ひぴ ふぷ へぺ ほぽ ハパ ヒピ フプ ヘペ ホポ"),
    (0x110BA, "𑂙𑂚 𑂛𑂜 𑂥𑂫"),
    (0x11127, "𑄱𑄮 𑄲𑄯"),
    (0x1133E, "𑍇𑍋"),
    (0x11357, "𑍇𑍌"),
    (0x113B8, "𑏅𑎸"),
    (0x113BB, "𑎄𑎅"),
    (0x113C2, "𑎋𑎎 𑏅𑏂"),
    (0x113C9, "𑎂𑎃 𑎐𑎑 𑏅𑏉"),
    (0x114B0, "𑒹𑒼"),
    (0x114BA, "𑒹𑒻"),
    (0x114BD, "𑒹𑒾"),
    (0x115AF, "𑖸𑖺 𑖹𑖻"),
    (0x11930, "𑤵𑤸"),
    (0x1611E, "𖄡𖄞"),
    (0x1611F, "𖄦 𖄡𖄦 𖄢𖄧 𖄩𖄤"),
    (0x16120, "𖄨 𖄡𖄨"),
    (0x16129, "𖄡𖄩"),
    (0x16D67, "𖵣𖵩 𖵨𖵧 𖵩𖵪")]

/-- A composite and its two parts. -/
structure Composite where
  first : Char
  second : Char
  whole : Char
  deriving DecidableEq, Repr

/-- The composites. -/
def composites : List Composite :=
  compositeLines.flatMap fun (second, pairs) =>
    (Text.words pairs.toList).filterMap fun
      | [first, whole] => some ⟨first, Char.ofNat second, whole⟩
      | _ => none

end Composition

end Host

end Target

end StaticServer
