import StaticServer.Text.Words

/-!
# Usual forms of characters

Characters that have a more usual form: capitals, the letters, digits and signs that are written in a special way
(wide, raised, circled, mathematical), letters joined into one, and characters that were assigned twice. Each line
gives the forms of consecutive characters from a first one on; one that has no other form stands for itself.

* `usualForm?`: the usual form of a character, if it has another one.
-/

namespace StaticServer

namespace Target

namespace Host

namespace Spelling

/-- Letters of the alphabetic scripts. -/
def letters : List (Nat × String) :=
  [(0xAA, "a"),
    (0xB2, "2 3"),
    (0xB5, "μ"),
    (0xB9, "1 o » 1⁄4 1⁄2 3⁄4 ¿ à á â ã ä å æ ç è é ê ë ì í î ï ð ñ ò ó ô õ ö × ø ù ú û ü ý þ"),
    (0x100, "ā ā ă ă ą ą ć ć ĉ ĉ ċ ċ č č ď ď đ đ ē ē ĕ ĕ ė ė ę ę ě ě ĝ ĝ ğ ğ ġ ġ ģ ģ ĥ ĥ ħ ħ ĩ ĩ ī ī ĭ ĭ į į i̇"),
    (0x131, "ı ij ij ĵ ĵ ķ ķ ĸ ĺ ĺ ļ ļ ľ ľ l· l· ł ł ń ń ņ ņ ň ň ʼn ŋ ŋ ō ō ŏ ŏ ő ő œ œ ŕ ŕ ŗ ŗ ř ř ś ś ŝ ŝ ş"),
    (0x15F, "ş š š ţ ţ ť ť ŧ ŧ ũ ũ ū ū ŭ ŭ ů ů ű ű ų ų ŵ ŵ ŷ ŷ ÿ ź ź ż ż ž ž s ƀ ɓ ƃ ƃ ƅ ƅ ɔ ƈ ƈ ɖ ɗ ƌ ƌ ƍ ǝ ə"),
    (0x190, "ɛ ƒ ƒ ɠ ɣ ƕ ɩ ɨ ƙ"),
    (0x19C, "ɯ ɲ ƞ ɵ ơ ơ ƣ ƣ ƥ ƥ ʀ ƨ ƨ ʃ ƪ ƫ ƭ ƭ ʈ ư ư ʊ ʋ ƴ ƴ ƶ ƶ ʒ ƹ"),
    (0x1BC, "ƽ"),
    (0x1C4, "dž dž dž lj lj lj nj nj nj ǎ ǎ ǐ ǐ ǒ ǒ ǔ ǔ ǖ ǖ ǘ ǘ ǚ ǚ ǜ ǜ ǝ ǟ ǟ ǡ ǡ ǣ ǣ ǥ ǥ ǧ ǧ ǩ ǩ ǫ ǫ ǭ ǭ ǯ ǯ"),
    (0x1F0, "ǰ dz dz dz ǵ ǵ ƕ ƿ ǹ ǹ ǻ ǻ ǽ ǽ ǿ ǿ ȁ ȁ ȃ ȃ ȅ ȅ ȇ ȇ ȉ ȉ ȋ ȋ ȍ ȍ ȏ ȏ ȑ ȑ ȓ ȓ ȕ ȕ ȗ ȗ ș ș ț ț ȝ ȝ ȟ"),
    (0x21F, "ȟ ƞ ȡ ȣ ȣ ȥ ȥ ȧ ȧ ȩ ȩ ȫ ȫ ȭ ȭ ȯ ȯ ȱ ȱ ȳ"),
    (0x23A, "ⱥ ȼ ȼ ƚ ⱦ ȿ ɀ ɂ ɂ ƀ ʉ ʌ ɇ ɇ ɉ ɉ ɋ ɋ ɍ ɍ ɏ"),
    (0x2B0, "h ɦ j r ɹ ɻ ʁ w y"),
    (0x2E0, "ɣ l s x ʕ"),
    (0x340, "̀ ́"),
    (0x343, "̓ ̈́ ι"),
    (0x370, "ͱ ͱ ͳ ͳ ʹ ͵ ͷ"),
    (0x37E, "; ϳ"),
    (0x386, "ά · έ ή ί"),
    (0x38C, "ό"),
    (0x38E, "ύ ώ ΐ α β γ δ ε ζ η θ ι κ λ μ ν ξ ο π ρ"),
    (0x3A3, "σ τ υ φ χ ψ ω ϊ ϋ"),
    (0x3CF, "ϗ β θ υ ύ ϋ φ π ϗ ϙ ϙ ϛ ϛ ϝ ϝ ϟ ϟ ϡ ϡ ϣ ϣ ϥ ϥ ϧ ϧ ϩ ϩ ϫ ϫ ϭ ϭ ϯ ϯ κ ρ σ ϳ θ ε ϶ ϸ ϸ σ ϻ ϻ ϼ ͻ ͼ ͽ"),
    (0x400, "ѐ ё ђ ѓ є ѕ і ї ј љ њ ћ ќ ѝ ў џ а б в г д е ж з и й к л м н о п р с т у ф х ц ч ш щ ъ ы ь э ю я"),
    (0x460, "ѡ ѡ ѣ ѣ ѥ ѥ ѧ ѧ ѩ ѩ ѫ ѫ ѭ ѭ ѯ ѯ ѱ ѱ ѳ ѳ ѵ ѵ ѷ ѷ ѹ ѹ ѻ ѻ ѽ ѽ ѿ ѿ ҁ"),
    (0x48A, "ҋ ҋ ҍ ҍ ҏ ҏ ґ ґ ғ ғ ҕ ҕ җ җ ҙ ҙ қ қ ҝ ҝ ҟ ҟ ҡ ҡ ң ң ҥ ҥ ҧ ҧ ҩ ҩ ҫ ҫ ҭ ҭ ү ү ұ ұ ҳ ҳ ҵ ҵ ҷ ҷ ҹ ҹ һ"),
    (0x4BB, "һ ҽ ҽ ҿ ҿ ӏ ӂ ӂ ӄ ӄ ӆ ӆ ӈ ӈ ӊ ӊ ӌ ӌ ӎ ӎ ӏ ӑ ӑ ӓ ӓ ӕ ӕ ӗ ӗ ә ә ӛ ӛ ӝ ӝ ӟ ӟ ӡ ӡ ӣ ӣ ӥ ӥ ӧ ӧ ө ө ӫ ӫ"),
    (0x4EC, "ӭ ӭ ӯ ӯ ӱ ӱ ӳ ӳ ӵ ӵ ӷ ӷ ӹ ӹ ӻ ӻ ӽ ӽ ӿ ӿ ԁ ԁ ԃ ԃ ԅ ԅ ԇ ԇ ԉ ԉ ԋ ԋ ԍ ԍ ԏ ԏ ԑ ԑ ԓ ԓ ԕ ԕ ԗ ԗ ԙ ԙ ԛ ԛ ԝ"),
    (0x51D, "ԝ ԟ ԟ ԡ ԡ ԣ ԣ ԥ ԥ ԧ ԧ ԩ ԩ ԫ ԫ ԭ ԭ ԯ"),
    (0x531, "ա բ գ դ ե զ է ը թ ժ ի լ խ ծ կ հ ձ ղ ճ մ յ ն շ ո չ պ ջ ռ ս վ տ ր ց ւ փ ք օ ֆ"),
    (0x558, "ֈ"),
    (0x587, "եւ"),
    (0x675, "اٴ وٴ ۇٴ يٴ"),
    (0x958, "क़ ख़ ग़ ज़ ड़ ढ़ फ़ य़"),
    (0x9DC, "ড় ঢ়"),
    (0x9DF, "য়"),
    (0xA33, "ਲ਼"),
    (0xA36, "ਸ਼"),
    (0xA59, "ਖ਼ ਗ਼ ਜ਼"),
    (0xA5E, "ਫ਼"),
    (0xB5C, "ଡ଼ ଢ଼"),
    (0xE33, "ํา"),
    (0xEB3, "ໍາ"),
    (0xEDC, "ຫນ ຫມ"),
    (0xF0C, "་"),
    (0xF43, "གྷ"),
    (0xF4D, "ཌྷ"),
    (0xF52, "དྷ"),
    (0xF57, "བྷ"),
    (0xF5C, "ཛྷ"),
    (0xF69, "ཀྵ"),
    (0xF73, "ཱི"),
    (0xF75, "ཱུ ྲྀ ྲཱྀ ླྀ ླཱྀ"),
    (0xF81, "ཱྀ"),
    (0xF93, "ྒྷ"),
    (0xF9D, "ྜྷ"),
    (0xFA2, "ྡྷ"),
    (0xFA7, "ྦྷ"),
    (0xFAC, "ྫྷ"),
    (0xFB9, "ྐྵ"),
    (0x10A0, "ⴀ ⴁ ⴂ ⴃ ⴄ ⴅ ⴆ ⴇ ⴈ ⴉ ⴊ ⴋ ⴌ ⴍ ⴎ ⴏ ⴐ ⴑ ⴒ ⴓ ⴔ ⴕ ⴖ ⴗ ⴘ ⴙ ⴚ ⴛ ⴜ ⴝ ⴞ ⴟ ⴠ ⴡ ⴢ ⴣ ⴤ ⴥ"),
    (0x10C7, "ⴧ"),
    (0x10CD, "ⴭ"),
    (0x10FC, "ნ"),
    (0x13F8, "Ᏸ Ᏹ Ᏺ Ᏻ Ᏼ Ᏽ"),
    (0x1C80, "в д о с т т ъ ѣ ꙋ ᲊ"),
    (0x1C90, "ა ბ გ დ ე ვ ზ თ ი კ ლ მ ნ ო პ ჟ რ ს ტ უ ფ ქ ღ ყ შ ჩ ც ძ წ ჭ ხ ჯ ჰ ჱ ჲ ჳ ჴ ჵ ჶ ჷ ჸ ჹ ჺ"),
    (0x1CBD, "ჽ ჾ ჿ"),
    (0x1D2C, "a æ b ᴯ d e ǝ g h i j k l m n ᴻ o ȣ p r t u w a ɐ ɑ ᴂ b d e ə ɛ ɜ g ᵎ k m ŋ o ɔ ᴖ ᴗ p t u ᴝ ɯ v ᴥ"),
    (0x1D5D, "β γ δ φ χ i r u v β γ ρ φ χ"),
    (0x1D78, "н"),
    (0x1D9B, "ɒ c ɕ ð ɜ f ɟ ɡ ɥ ɨ ɩ ɪ ᵻ ʝ ɭ ᶅ ʟ ɱ ɰ ɲ ɳ ɴ ɵ ɸ ʂ ʃ ƫ ʉ ʊ ᴜ ʋ ʌ z ʐ ʑ ʒ θ"),
    (0x1E00, "ḁ ḁ ḃ ḃ ḅ ḅ ḇ ḇ ḉ ḉ ḋ ḋ ḍ ḍ ḏ ḏ ḑ ḑ ḓ ḓ ḕ ḕ ḗ ḗ ḙ ḙ ḛ ḛ ḝ ḝ ḟ ḟ ḡ ḡ ḣ ḣ ḥ ḥ ḧ ḧ ḩ ḩ ḫ ḫ ḭ ḭ ḯ ḯ ḱ"),
    (0x1E31, "ḱ ḳ ḳ ḵ ḵ ḷ ḷ ḹ ḹ ḻ ḻ ḽ ḽ ḿ ḿ ṁ ṁ ṃ ṃ ṅ ṅ ṇ ṇ ṉ ṉ ṋ ṋ ṍ ṍ ṏ ṏ ṑ ṑ ṓ ṓ ṕ ṕ ṗ ṗ ṙ ṙ ṛ ṛ ṝ ṝ ṟ ṟ ṡ ṡ"),
    (0x1E62, "ṣ ṣ ṥ ṥ ṧ ṧ ṩ ṩ ṫ ṫ ṭ ṭ ṯ ṯ ṱ ṱ ṳ ṳ ṵ ṵ ṷ ṷ ṹ ṹ ṻ ṻ ṽ ṽ ṿ ṿ ẁ ẁ ẃ ẃ ẅ ẅ ẇ ẇ ẉ ẉ ẋ ẋ ẍ ẍ ẏ ẏ ẑ ẑ ẓ"),
    (0x1E93, "ẓ ẕ"),
    (0x1E9A, "aʾ ṡ ẜ ẝ ß ẟ ạ ạ ả ả ấ ấ ầ ầ ẩ ẩ ẫ ẫ ậ ậ ắ ắ ằ ằ ẳ ẳ ẵ ẵ ặ ặ ẹ ẹ ẻ ẻ ẽ ẽ ế ế ề ề ể ể ễ ễ ệ ệ ỉ ỉ"),
    (0x1ECA, "ị ị ọ ọ ỏ ỏ ố ố ồ ồ ổ ổ ỗ ỗ ộ ộ ớ ớ ờ ờ ở ở ỡ ỡ ợ ợ ụ ụ ủ ủ ứ ứ ừ ừ ử ử ữ ữ ự ự ỳ ỳ ỵ ỵ ỷ ỷ ỹ ỹ ỻ"),
    (0x1EFB, "ỻ ỽ ỽ ỿ"),
    (0x1F08, "ἀ ἁ ἂ ἃ ἄ ἅ ἆ ἇ"),
    (0x1F18, "ἐ ἑ ἒ ἓ ἔ ἕ"),
    (0x1F28, "ἠ ἡ ἢ ἣ ἤ ἥ ἦ ἧ"),
    (0x1F38, "ἰ ἱ ἲ ἳ ἴ ἵ ἶ ἷ"),
    (0x1F48, "ὀ ὁ ὂ ὃ ὄ ὅ"),
    (0x1F59, "ὑ"),
    (0x1F5B, "ὓ"),
    (0x1F5D, "ὕ"),
    (0x1F5F, "ὗ"),
    (0x1F68, "ὠ ὡ ὢ ὣ ὤ ὥ ὦ ὧ ὰ ά ὲ έ ὴ ή ὶ ί ὸ ό ὺ ύ ὼ ώ"),
    (0x1F80, "ἀι ἁι ἂι ἃι ἄι ἅι ἆι ἇι ἀι ἁι ἂι ἃι ἄι ἅι ἆι ἇι ἠι ἡι ἢι ἣι ἤι ἥι ἦι ἧι ἠι ἡι ἢι ἣι ἤι ἥι ἦι ἧι"),
    (0x1FA0, "ὠι ὡι ὢι ὣι ὤι ὥι ὦι ὧι ὠι ὡι ὢι ὣι ὤι ὥι ὦι ὧι ᾰ ᾱ ὰι αι άι"),
    (0x1FB7, "ᾶι ᾰ ᾱ ὰ ά αι"),
    (0x1FBE, "ι"),
    (0x1FC2, "ὴι ηι ήι"),
    (0x1FC7, "ῆι ὲ έ ὴ ή ηι"),
    (0x1FD3, "ΐ"),
    (0x1FD8, "ῐ ῑ ὶ ί"),
    (0x1FE3, "ΰ"),
    (0x1FE8, "ῠ ῡ ὺ ύ ῥ"),
    (0x1FEF, "\x60"),
    (0x1FF2, "ὼι ωι ώι"),
    (0x1FF7, "ῶι ὸ ό ὼ ώ ωι")]

/-- Letterlike symbols, numbers and signs. -/
def symbols : List (Nat × String) :=
  [(0x2011, "‐"),
    (0x2033, "′′ ′′′ ‵ ‵‵ ‵‵‵"),
    (0x203C, "!!"),
    (0x2047, "?? ?! !?"),
    (0x2057, "′′′′"),
    (0x2070, "0 i"),
    (0x2074, "4 5 6 7 8 9 + − = ( ) n 0 1 2 3 4 5 6 7 8 9 + − = ( )"),
    (0x2090, "a e o x ə h k l m n p s t"),
    (0x20A8, "rs"),
    (0x2100, "a/c a/s c °c ℄ c/o c/u ɛ ℈ °f g h h h h ħ i i l l ℔ n no ℗ ℘ p q r r r ℞ ℟ sm tel tm ℣ z ℥ ω ℧ z"),
    (0x2129, "℩ k å b c ℮ e e f ⅎ m o א ב ג ד i ℺ fax π γ γ π ∑"),
    (0x2145, "d d e i j"),
    (0x2150, "1⁄7 1⁄9 1⁄10 1⁄3 2⁄3 1⁄5 2⁄5 3⁄5 4⁄5 1⁄6 5⁄6 1⁄8 3⁄8 5⁄8 7⁄8 1⁄ i ii iii iv v vi vii viii ix x xi"),
    (0x216B, "xii l c d m i ii iii iv v vi vii viii ix x xi xii l c d m"),
    (0x2183, "ↄ"),
    (0x2189, "0⁄3"),
    (0x222C, "∫∫ ∫∫∫ ∮ ∮∮ ∮∮∮"),
    (0x2329, "〈 〉"),
    (0x2460, "1 2 3 4 5 6 7 8 9 10 11 12 13 14 15 16 17 18 19 20 (1) (2) (3) (4) (5) (6) (7) (8) (9) (10) (11)"),
    (0x247F, "(12) (13) (14) (15) (16) (17) (18) (19) (20)"),
    (0x249C, "(a) (b) (c) (d) (e) (f) (g) (h) (i) (j) (k) (l) (m) (n) (o) (p) (q) (r) (s) (t) (u) (v) (w) (x)"),
    (0x24B4, "(y) (z) a b c d e f g h i j k l m n o p q r s t u v w x y z a b c d e f g h i j k l m n o p q r s"),
    (0x24E3, "t u v w x y z 0"),
    (0x2A0C, "∫∫∫∫"),
    (0x2A74, "::= == ==="),
    (0x2ADC, "⫝̸"),
    (0x2C00, "ⰰ ⰱ ⰲ ⰳ ⰴ ⰵ ⰶ ⰷ ⰸ ⰹ ⰺ ⰻ ⰼ ⰽ ⰾ ⰿ ⱀ ⱁ ⱂ ⱃ ⱄ ⱅ ⱆ ⱇ ⱈ ⱉ ⱊ ⱋ ⱌ ⱍ ⱎ ⱏ ⱐ ⱑ ⱒ ⱓ ⱔ ⱕ ⱖ ⱗ ⱘ ⱙ ⱚ ⱛ ⱜ ⱝ ⱞ ⱟ"),
    (0x2C60, "ⱡ ⱡ ɫ ᵽ ɽ ⱥ ⱦ ⱨ ⱨ ⱪ ⱪ ⱬ ⱬ ɑ ɱ ɐ ɒ ⱱ ⱳ ⱳ ⱴ ⱶ"),
    (0x2C7C, "j v ȿ ɀ ⲁ ⲁ ⲃ ⲃ ⲅ ⲅ ⲇ ⲇ ⲉ ⲉ ⲋ ⲋ ⲍ ⲍ ⲏ ⲏ ⲑ ⲑ ⲓ ⲓ ⲕ ⲕ ⲗ ⲗ ⲙ ⲙ ⲛ ⲛ ⲝ ⲝ ⲟ ⲟ ⲡ ⲡ ⲣ ⲣ ⲥ ⲥ ⲧ ⲧ ⲩ ⲩ ⲫ ⲫ ⲭ"),
    (0x2CAD, "ⲭ ⲯ ⲯ ⲱ ⲱ ⲳ ⲳ ⲵ ⲵ ⲷ ⲷ ⲹ ⲹ ⲻ ⲻ ⲽ ⲽ ⲿ ⲿ ⳁ ⳁ ⳃ ⳃ ⳅ ⳅ ⳇ ⳇ ⳉ ⳉ ⳋ ⳋ ⳍ ⳍ ⳏ ⳏ ⳑ ⳑ ⳓ ⳓ ⳕ ⳕ ⳗ ⳗ ⳙ ⳙ ⳛ ⳛ ⳝ ⳝ"),
    (0x2CDE, "ⳟ ⳟ ⳡ ⳡ ⳣ"),
    (0x2CEB, "ⳬ ⳬ ⳮ"),
    (0x2CF2, "ⳳ"),
    (0x2D6F, "ⵡ"),
    (0x2E9F, "母"),
    (0x2EF3, "龟"),
    (0x2F00, "一 丨 丶 丿 乙 亅 二 亠 人 儿 入 八 冂 冖 冫 几 凵 刀 力 勹 匕 匚 匸 十 卜 卩 厂 厶 又 口 囗 土"),
    (0x2F20, "士 夂 夊 夕 大 女 子 宀 寸 小 尢 尸 屮 山 巛 工 己 巾 干 幺 广 廴 廾 弋 弓 彐 彡 彳 心 戈 戶 手"),
    (0x2F40, "支 攴 文 斗 斤 方 无 日 曰 月 木 欠 止 歹 殳 毋 比 毛 氏 气 水 火 爪 父 爻 爿 片 牙 牛 犬 玄 玉"),
    (0x2F60, "瓜 瓦 甘 生 用 田 疋 疒 癶 白 皮 皿 目 矛 矢 石 示 禸 禾 穴 立 竹 米 糸 缶 网 羊 羽 老 而 耒 耳"),
    (0x2F80, "聿 肉 臣 自 至 臼 舌 舛 舟 艮 色 艸 虍 虫 血 行 衣 襾 見 角 言 谷 豆 豕 豸 貝 赤 走 足 身 車 辛"),
    (0x2FA0, "辰 辵 邑 酉 釆 里 金 長 門 阜 隶 隹 雨 靑 非 面 革 韋 韭 音 頁 風 飛 食 首 香 馬 骨 高 髟 鬥 鬯"),
    (0x2FC0, "鬲 鬼 魚 鳥 鹵 鹿 麥 麻 黃 黍 黑 黹 黽 鼎 鼓 鼠 鼻 齊 齒 龍 龜 龠"),
    (0x3002, "."),
    (0x3036, "〒 〷 十 卄 卅"),
    (0x309F, "より"),
    (0x30FF, "コト")]

/-- The scripts of East Asia, and letters behind them. -/
def wideScripts : List (Nat × String) :=
  [(0x3131, "ᄀ ᄁ ᆪ ᄂ ᆬ ᆭ ᄃ ᄄ ᄅ ᆰ ᆱ ᆲ ᆳ ᆴ ᆵ ᄚ ᄆ ᄇ ᄈ ᄡ ᄉ ᄊ ᄋ ᄌ ᄍ ᄎ ᄏ ᄐ ᄑ ᄒ ᅡ ᅢ ᅣ ᅤ ᅥ ᅦ ᅧ ᅨ"),
    (0x3157, "ᅩ ᅪ ᅫ ᅬ ᅭ ᅮ ᅯ ᅰ ᅱ ᅲ ᅳ ᅴ ᅵ"),
    (0x3165, "ᄔ ᄕ ᇇ ᇈ ᇌ ᇎ ᇓ ᇗ ᇙ ᄜ ᇝ ᇟ ᄝ ᄞ ᄠ ᄢ ᄣ ᄧ ᄩ ᄫ ᄬ ᄭ ᄮ ᄯ ᄲ ᄶ ᅀ ᅇ ᅌ ᇱ ᇲ ᅗ ᅘ ᅙ ᆄ ᆅ ᆈ"),
    (0x318A, "ᆑ ᆒ ᆔ ᆞ ᆡ"),
    (0x3192, "一 二 三 四 上 中 下 甲 乙 丙 丁 天 地 人"),
    (0x3200, "(ᄀ) (ᄂ) (ᄃ) (ᄅ) (ᄆ) (ᄇ) (ᄉ) (ᄋ) (ᄌ) (ᄎ) (ᄏ) (ᄐ) (ᄑ) (ᄒ) (가) (나) (다) (라) (마)"),
    (0x3213, "(바) (사) (아) (자) (차) (카) (타) (파) (하) (주) (오전) (오후)"),
    (0x3220, "(一) (二) (三) (四) (五) (六) (七) (八) (九) (十) (月) (火) (水) (木) (金) (土) (日) (株) (有)"),
    (0x3233, "(社) (名) (特) (財) (祝) (労) (代) (呼) (学) (監) (企) (資) (協) (祭) (休) (自) (至) 問 幼 文 箏"),
    (0x3250, "pte 21 22 23 24 25 26 27 28 29 30 31 32 33 34 35 ᄀ ᄂ ᄃ ᄅ ᄆ ᄇ ᄉ ᄋ ᄌ ᄎ ᄏ ᄐ ᄑ ᄒ 가 나"),
    (0x3270, "다 라 마 바 사 아 자 차 카 타 파 하 참고 주의 우 ㉿ 一 二 三 四 五 六 七 八 九 十 月 火 水 木 金"),
    (0x328F, "土 日 株 有 社 名 特 財 祝 労 秘 男 女 適 優 印 注 項 休 写 正 上 中 下 左 右 医 宗 学 監 企 資"),
    (0x32AF, "協 夜 36 37 38 39 40 41 42 43 44 45 46 47 48 49 50 1月 2月 3月 4月 5月 6月 7月 8月 9月 10月 11月"),
    (0x32CB, "12月 hg erg ev ltd ア イ ウ エ オ カ キ ク ケ コ サ シ ス セ ソ タ チ ツ テ ト ナ ニ ヌ ネ ノ ハ"),
    (0x32EA, "ヒ フ ヘ ホ マ ミ ム メ モ ヤ ユ ヨ ラ リ ル レ ロ ワ ヰ ヱ ヲ 令和 アパート アルファ アンペア"),
    (0x3303, "アール イニング インチ ウォン エスクード エーカー オンス オーム カイリ カラット カロリー ガロン"),
    (0x330F, "ガンマ ギガ ギニー キュリー ギルダー キロ キログラム キロメートル キロワット グラム グラムトン"),
    (0x331A, "クルゼイロ クローネ ケース コルナ コーポ サイクル サンチーム シリング センチ セント ダース デシ"),
    (0x3326, "ドル トン ナノ ノット ハイツ パーセント パーツ バーレル ピアストル ピクル ピコ ビル ファラッド"),
    (0x3333, "フィート ブッシェル フラン ヘクタール ペソ ペニヒ ヘルツ ペンス ページ ベータ ポイント ボルト"),
    (0x333F, "ホン ポンド ホール ホーン マイクロ マイル マッハ マルク マンション ミクロン ミリ ミリバール メガ"),
    (0x334C, "メガトン メートル ヤード ヤール ユアン リットル リラ ルピー ルーブル レム レントゲン ワット 0点"),
    (0x3359, "1点 2点 3点 4点 5点 6点 7点 8点 9点 10点 11点 12点 13点 14点 15点 16点 17点 18点 19点 20点 21点"),
    (0x336E, "22点 23点 24点 hpa da au bar ov pc dm dm2 dm3 iu 平成 昭和 大正 明治 株式会社 pa na μa ma ka kb"),
    (0x3386, "mb gb cal kcal pf nf μf μg mg kg hz khz mhz ghz thz μl ml dl kl fm nm μm mm cm km mm2 cm2 m2 km2"),
    (0x33A3, "mm3 cm3 m3 km3 m∕s m∕s2 pa kpa mpa gpa rad rad∕s rad∕s2 ps ns μs ms pv nv μv mv kv mv pw nw μw mw"),
    (0x33BE, "kw mw kω mω"),
    (0x33C3, "bq cc cd c∕kg"),
    (0x33C8, "db gy ha hp in kk km kt lm ln log lx mb mil mol ph"),
    (0x33D9, "ppm pr sr sv wb v∕m a∕m 1日 2日 3日 4日 5日 6日 7日 8日 9日 10日 11日 12日 13日 14日 15日 16日"),
    (0x33F0, "17日 18日 19日 20日 21日 22日 23日 24日 25日 26日 27日 28日 29日 30日 31日 gal"),
    (0xA640, "ꙁ ꙁ ꙃ ꙃ ꙅ ꙅ ꙇ ꙇ ꙉ ꙉ ꙋ ꙋ ꙍ ꙍ ꙏ ꙏ ꙑ ꙑ ꙓ ꙓ ꙕ ꙕ ꙗ ꙗ ꙙ ꙙ ꙛ ꙛ ꙝ ꙝ ꙟ ꙟ ꙡ ꙡ ꙣ ꙣ ꙥ ꙥ ꙧ ꙧ ꙩ ꙩ ꙫ ꙫ ꙭ"),
    (0xA680, "ꚁ ꚁ ꚃ ꚃ ꚅ ꚅ ꚇ ꚇ ꚉ ꚉ ꚋ ꚋ ꚍ ꚍ ꚏ ꚏ ꚑ ꚑ ꚓ ꚓ ꚕ ꚕ ꚗ ꚗ ꚙ ꚙ ꚛ ꚛ ъ ь"),
    (0xA722, "ꜣ ꜣ ꜥ ꜥ ꜧ ꜧ ꜩ ꜩ ꜫ ꜫ ꜭ ꜭ ꜯ"),
    (0xA732, "ꜳ ꜳ ꜵ ꜵ ꜷ ꜷ ꜹ ꜹ ꜻ ꜻ ꜽ ꜽ ꜿ ꜿ ꝁ ꝁ ꝃ ꝃ ꝅ ꝅ ꝇ ꝇ ꝉ ꝉ ꝋ ꝋ ꝍ ꝍ ꝏ ꝏ ꝑ ꝑ ꝓ ꝓ ꝕ ꝕ ꝗ ꝗ ꝙ ꝙ ꝛ ꝛ ꝝ ꝝ ꝟ ꝟ ꝡ ꝡ ꝣ"),
    (0xA763, "ꝣ ꝥ ꝥ ꝧ ꝧ ꝩ ꝩ ꝫ ꝫ ꝭ ꝭ ꝯ ꝯ ꝯ"),
    (0xA779, "ꝺ ꝺ ꝼ ꝼ ᵹ ꝿ ꝿ ꞁ ꞁ ꞃ ꞃ ꞅ ꞅ ꞇ"),
    (0xA78B, "ꞌ ꞌ ɥ ꞎ ꞏ ꞑ ꞑ ꞓ"),
    (0xA796, "ꞗ ꞗ ꞙ ꞙ ꞛ ꞛ ꞝ ꞝ ꞟ ꞟ ꞡ ꞡ ꞣ ꞣ ꞥ ꞥ ꞧ ꞧ ꞩ ꞩ ɦ ɜ ɡ ɬ ɪ ꞯ ʞ ʇ ʝ ꭓ ꞵ ꞵ ꞷ ꞷ ꞹ ꞹ ꞻ ꞻ ꞽ ꞽ ꞿ ꞿ ꟁ ꟁ ꟃ ꟃ ꞔ ʂ ᶎ"),
    (0xA7C7, "ꟈ ꟈ ꟊ ꟊ ɤ ꟍ ꟍ ꟏ ꟏ ꟑ ꟑ ꟓ ꟓ ꟕ ꟕ ꟗ ꟗ ꟙ ꟙ ꟛ ꟛ ƛ"),
    (0xA7F1, "s c f q ꟶ ꟶ ꟷ ħ œ"),
    (0xAB5C, "ꜧ ꬷ ɫ ꭒ"),
    (0xAB69, "ʍ"),
    (0xAB70, "Ꭰ Ꭱ Ꭲ Ꭳ Ꭴ Ꭵ Ꭶ Ꭷ Ꭸ Ꭹ Ꭺ Ꭻ Ꭼ Ꭽ Ꭾ Ꭿ Ꮀ Ꮁ Ꮂ Ꮃ Ꮄ Ꮅ Ꮆ Ꮇ Ꮈ Ꮉ Ꮊ Ꮋ Ꮌ Ꮍ Ꮎ Ꮏ Ꮐ Ꮑ Ꮒ Ꮓ Ꮔ Ꮕ Ꮖ Ꮗ Ꮘ Ꮙ Ꮚ Ꮛ Ꮜ Ꮝ Ꮞ Ꮟ Ꮠ"),
    (0xABA1, "Ꮡ Ꮢ Ꮣ Ꮤ Ꮥ Ꮦ Ꮧ Ꮨ Ꮩ Ꮪ Ꮫ Ꮬ Ꮭ Ꮮ Ꮯ Ꮰ Ꮱ Ꮲ Ꮳ Ꮴ Ꮵ Ꮶ Ꮷ Ꮸ Ꮹ Ꮺ Ꮻ Ꮼ Ꮽ Ꮾ Ꮿ"),
    (0xF900, "豈 更 車 賈 滑 串 句 龜 龜 契 金 喇 奈 懶 癩 羅 蘿 螺 裸 邏 樂 洛 烙 珞 落 酪 駱 亂 卵 欄 爛 蘭"),
    (0xF920, "鸞 嵐 濫 藍 襤 拉 臘 蠟 廊 朗 浪 狼 郎 來 冷 勞 擄 櫓 爐 盧 老 蘆 虜 路 露 魯 鷺 碌 祿 綠 菉 錄"),
    (0xF940, "鹿 論 壟 弄 籠 聾 牢 磊 賂 雷 壘 屢 樓 淚 漏 累 縷 陋 勒 肋 凜 凌 稜 綾 菱 陵 讀 拏 樂 諾 丹 寧"),
    (0xF960, "怒 率 異 北 磻 便 復 不 泌 數 索 參 塞 省 葉 說 殺 辰 沈 拾 若 掠 略 亮 兩 凉 梁 糧 良 諒 量 勵"),
    (0xF980, "呂 女 廬 旅 濾 礪 閭 驪 麗 黎 力 曆 歷 轢 年 憐 戀 撚 漣 煉 璉 秊 練 聯 輦 蓮 連 鍊 列 劣 咽 烈"),
    (0xF9A0, "裂 說 廉 念 捻 殮 簾 獵 令 囹 寧 嶺 怜 玲 瑩 羚 聆 鈴 零 靈 領 例 禮 醴 隸 惡 了 僚 寮 尿 料 樂"),
    (0xF9C0, "燎 療 蓼 遼 龍 暈 阮 劉 杻 柳 流 溜 琉 留 硫 紐 類 六 戮 陸 倫 崙 淪 輪 律 慄 栗 率 隆 利 吏 履"),
    (0xF9E0, "易 李 梨 泥 理 痢 罹 裏 裡 里 離 匿 溺 吝 燐 璘 藺 隣 鱗 麟 林 淋 臨 立 笠 粒 狀 炙 識 什 茶 刺"),
    (0xFA00, "切 度 拓 糖 宅 洞 暴 輻 行 降 見 廓 兀 嗀 﨎 﨏 塚 﨑 晴 﨓 﨔 凞 猪 益 礼 神 祥 福 靖 精 羽 﨟"),
    (0xFA20, "蘒 﨡 諸 﨣 﨤 逸 都"),
    (0xFA2A, "飯 飼 館 鶴 郞 隷 侮 僧 免 勉 勤 卑 喝 嘆 器 塀 墨 層 屮 悔 慨 憎 懲 敏 既 暑 梅 海 渚 漢 煮 爫"),
    (0xFA4A, "琢 碑 社 祉 祈 祐 祖 祝 禍 禎 穀 突 節 練 縉 繁 署 者 臭 艹 艹 著 褐 視 謁 謹 賓 贈 辶 逸 難 響"),
    (0xFA6A, "頻 恵 𤋮 舘"),
    (0xFA70, "並 况 全 侀 充 冀 勇 勺 喝 啕 喙 嗢 塚 墳 奄 奔 婢 嬨 廒 廙 彩 徭 惘 慎 愈 憎 慠 懲 戴 揄 搜 摒"),
    (0xFA90, "敖 晴 朗 望 杖 歹 殺 流 滛 滋 漢 瀞 煮 瞧 爵 犯 猪 瑱 甆 画 瘝 瘟 益 盛 直 睊 着 磌 窱 節 类 絛"),
    (0xFAB0, "練 缾 者 荒 華 蝹 襁 覆 視 調 諸 請 謁 諾 諭 謹 變 贈 輸 遲 醙 鉶 陼 難 靖 韛 響 頋 頻 鬒 龜 𢡊"),
    (0xFAD0, "𢡄 𣏕 㮝 䀘 䀹 𥉉 𥳐 𧻓 齃 龎")]

/-- Forms for presentation, wide and narrow ones. -/
def presentation : List (Nat × String) :=
  [(0xFB00, "ff fi fl ffi ffl st st"),
    (0xFB13, "մն մե մի վն մխ"),
    (0xFB1D, "יִ"),
    (0xFB1F, "ײַ ע א ד ה כ ל ם ר ת + שׁ שׂ שּׁ שּׂ אַ אָ אּ בּ גּ דּ הּ וּ זּ"),
    (0xFB38, "טּ יּ ךּ כּ לּ"),
    (0xFB3E, "מּ"),
    (0xFB40, "נּ סּ"),
    (0xFB43, "ףּ פּ"),
    (0xFB46, "צּ קּ רּ שּ תּ וֹ בֿ כֿ פֿ אל ٱ ٱ ٻ ٻ ٻ ٻ پ پ پ پ ڀ ڀ ڀ ڀ ٺ ٺ ٺ ٺ ٿ ٿ ٿ ٿ ٹ ٹ ٹ ٹ ڤ ڤ ڤ ڤ ڦ ڦ ڦ ڦ ڄ ڄ ڄ ڄ"),
    (0xFB76, "ڃ ڃ ڃ ڃ چ چ چ چ ڇ ڇ ڇ ڇ ڍ ڍ ڌ ڌ ڎ ڎ ڈ ڈ ژ ژ ڑ ڑ ک ک ک ک گ گ گ گ ڳ ڳ ڳ ڳ ڱ ڱ ڱ ڱ ں ں ڻ ڻ ڻ ڻ ۀ ۀ ہ"),
    (0xFBA7, "ہ ہ ہ ھ ھ ھ ھ ے ے ۓ ۓ"),
    (0xFBD3, "ڭ ڭ ڭ ڭ ۇ ۇ ۆ ۆ ۈ ۈ ۇٴ ۋ ۋ ۅ ۅ ۉ ۉ ې ې ې ې ى ى ئا ئا ئە ئە ئو ئو ئۇ ئۇ ئۆ ئۆ ئۈ ئۈ ئې ئې ئې ئى ئى"),
    (0xFBFB, "ئى ی ی ی ی ئج ئح ئم ئى ئي بج بح بخ بم بى بي تج تح تخ تم تى تي ثج ثم ثى ثي جح جم حج حم خج خح خم سج"),
    (0xFC1D, "سح سخ سم صح صم ضج ضح ضخ ضم طح طم ظم عج عم غج غم فج فح فخ فم فى في قح قم قى قي كا كج كح كخ كل كم"),
    (0xFC3D, "كى كي لج لح لخ لم لى لي مج مح مخ مم مى مي نج نح نخ نم نى ني هج هم هى هي يج يح يخ يم يى يي ذٰ رٰ ىٰ"),
    (0xFC64, "ئر ئز ئم ئن ئى ئي بر بز بم بن بى بي تر تز تم تن تى تي ثر ثز ثم ثن ثى ثي فى في قى قي كا كل كم كى"),
    (0xFC84, "كي لم لى لي ما مم نر نز نم نن نى ني ىٰ ير يز يم ين يى يي ئج ئح ئخ ئم ئه بج بح بخ بم به تج تح تخ تم"),
    (0xFCA5, "ته ثم جح جم حج حم خج خم سج سح سخ سم صح صخ صم ضج ضح ضخ ضم طح ظم عج عم غج غم فج فح فخ فم قح قم كج"),
    (0xFCC5, "كح كخ كل كم لج لح لخ لم له مج مح مخ مم نج نح نخ نم نه هج هم هٰ يج يح يخ يم يه ئم ئه بم به تم ته ثم"),
    (0xFCE6, "ثه سم سه شم شه كل كم لم نم نه يم يه ـَّ ـُّ ـِّ طى طي عى عي غى غي سى سي شى شي حى حي جى جي خى خي صى صي"),
    (0xFD07, "ضى ضي شج شح شخ شم شر سر صر ضر طى طي عى عي غى غي سى سي شى شي حى حي جى جي خى خي صى صي ضى ضي شج شح"),
    (0xFD27, "شخ شم شر سر صر ضر شج شح شخ شم سه شه طم سج سح سخ شج شح شخ طم ظم اً اً"),
    (0xFD50, "تجم تحج تحج تحم تخم تمج تمح تمخ جمح جمح حمي حمى سحج سجح سجى سمح سمح سمج سمم سمم صحح صحح صمم شحم"),
    (0xFD68, "شحم شجي شمخ شمخ شمم شمم ضحى ضخم ضخم طمح طمح طمم طمي عجم عمم عمم عمى غمم غمي غمى فخم فخم قمح قمم"),
    (0xFD80, "لحم لحي لحى لجج لجج لخم لخم لمح لمح محج محم محي مجح مجم مخج مخم ﶐ ﶑ مجخ همج همم نحم نحى نجم نجم"),
    (0xFD99, "نجى نمي نمى يمم يمم بخي تجي تجى تخي تخى تمي تمى جمي جحى جمى سخى صحي شحي ضحي لجي لمي يحي يجي يمي"),
    (0xFDB1, "ممي قمي نحي قمح لحم عمي كمي نجح مخي لجم كمم لجم نجح جحي حجي مجي فمي بحي كمم عجم صمم سخي نجي"),
    (0xFDF0, "صلے قلے الله اكبر محمد صلعم رسول عليه وسلم صلى"),
    (0xFDFC, "ریال"),
    (0xFE10, ", 、"),
    (0xFE13, ": ; ! ? 〖 〗"),
    (0xFE31, "— – _ _ ( ) \x7b \x7d 〔 〕 【 】 《 》 〈 〉 「 」 『 』 ﹅ ﹆ [ ]"),
    (0xFE4D, "_ _ _ , 、"),
    (0xFE54, "; : ? ! — ( ) \x7b \x7d 〔 〕 # & * + - < > ="),
    (0xFE68, "\x5c $ % @"),
    (0xFE71, "ـً"),
    (0xFE77, "ـَ"),
    (0xFE79, "ـُ"),
    (0xFE7B, "ـِ"),
    (0xFE7D, "ـّ"),
    (0xFE7F, "ـْ ء آ آ أ أ ؤ ؤ إ إ ئ ئ ئ ئ ا ا ب ب ب ب ة ة ت ت ت ت ث ث ث ث ج ج ج ج ح ح ح ح خ خ خ خ د د ذ ذ ر ر ز"),
    (0xFEB0, "ز س س س س ش ش ش ش ص ص ص ص ض ض ض ض ط ط ط ط ظ ظ ظ ظ ع ع ع ع غ غ غ غ ف ف ف ف ق ق ق ق ك ك ك ك ل ل ل ل"),
    (0xFEE1, "م م م م ن ن ن ن ه ه ه ه و و ى ى ي ي ي ي لآ لآ لأ لأ لإ لإ لا لا"),
    (0xFF01, "! \x22 # $ % & \x27 ( ) * + , - . / 0 1 2 3 4 5 6 7 8 9 : ; < = > ? @ a b c d e f g h i j k l m n"),
    (0xFF2F, "o p q r s t u v w x y z [ \x5c ] ^ _ \x60 a b c d e f g h i j k l m n o p q r s t u v w x y z"),
    (0xFF5B, "\x7b | \x7d ~ ⦅ ⦆ . 「 」 、 ・ ヲ ァ ィ ゥ ェ ォ ャ ュ ョ ッ ー ア イ ウ エ オ カ キ ク ケ コ サ"),
    (0xFF7C, "シ ス セ ソ タ チ ツ テ ト ナ ニ ヌ ネ ノ ハ ヒ フ ヘ ホ マ ミ ム メ モ ヤ ユ ヨ ラ リ ル レ ロ"),
    (0xFF9C, "ワ ン ゙ ゚"),
    (0xFFA1, "ᄀ ᄁ ᆪ ᄂ ᆬ ᆭ ᄃ ᄄ ᄅ ᆰ ᆱ ᆲ ᆳ ᆴ ᆵ ᄚ ᄆ ᄇ ᄈ ᄡ ᄉ ᄊ ᄋ ᄌ ᄍ ᄎ ᄏ ᄐ ᄑ ᄒ"),
    (0xFFC2, "ᅡ ᅢ ᅣ ᅤ ᅥ ᅦ"),
    (0xFFCA, "ᅧ ᅨ ᅩ ᅪ ᅫ ᅬ"),
    (0xFFD2, "ᅭ ᅮ ᅯ ᅰ ᅱ ᅲ"),
    (0xFFDA, "ᅳ ᅴ ᅵ"),
    (0xFFE0, "¢ £ ¬"),
    (0xFFE4, "¦ ¥ ₩"),
    (0xFFE8, "│ ← ↑ → ↓ ■ ○")]

/-- Characters behind the first plane. -/
def further : List (Nat × String) :=
  [(0x10400, "𐐨 𐐩 𐐪 𐐫 𐐬 𐐭 𐐮 𐐯 𐐰 𐐱 𐐲 𐐳 𐐴 𐐵 𐐶 𐐷 𐐸 𐐹 𐐺 𐐻 𐐼 𐐽 𐐾 𐐿 𐑀 𐑁 𐑂 𐑃 𐑄 𐑅 𐑆 𐑇 𐑈 𐑉 𐑊 𐑋 𐑌 𐑍 𐑎 𐑏"),
    (0x104B0, "𐓘 𐓙 𐓚 𐓛 𐓜 𐓝 𐓞 𐓟 𐓠 𐓡 𐓢 𐓣 𐓤 𐓥 𐓦 𐓧 𐓨 𐓩 𐓪 𐓫 𐓬 𐓭 𐓮 𐓯 𐓰 𐓱 𐓲 𐓳 𐓴 𐓵 𐓶 𐓷 𐓸 𐓹 𐓺 𐓻"),
    (0x10570, "𐖗 𐖘 𐖙 𐖚 𐖛 𐖜 𐖝 𐖞 𐖟 𐖠 𐖡"),
    (0x1057C, "𐖣 𐖤 𐖥 𐖦 𐖧 𐖨 𐖩 𐖪 𐖫 𐖬 𐖭 𐖮 𐖯 𐖰 𐖱"),
    (0x1058C, "𐖳 𐖴 𐖵 𐖶 𐖷 𐖸 𐖹"),
    (0x10594, "𐖻 𐖼"),
    (0x10781, "ː ˑ æ ʙ ɓ"),
    (0x10787, "ʣ ꭦ ʥ ʤ ɖ ɗ ᶑ ɘ ɞ ʩ ɤ ɢ ɠ ʛ ħ ʜ ɧ ʄ ʪ ʫ ɬ 𝼄 ꞎ ɮ 𝼅 ʎ 𝼆 ø ɶ ɷ q ɺ 𝼈 ɽ ɾ ʀ ʨ ʦ ꭧ ʧ ʈ ⱱ"),
    (0x107B2, "ʏ ʡ ʢ ʘ ǀ ǁ ǂ 𝼊 𝼞"),
    (0x10C80, "𐳀 𐳁 𐳂 𐳃 𐳄 𐳅 𐳆 𐳇 𐳈 𐳉 𐳊 𐳋 𐳌 𐳍 𐳎 𐳏 𐳐 𐳑 𐳒 𐳓 𐳔 𐳕 𐳖 𐳗 𐳘 𐳙 𐳚 𐳛 𐳜 𐳝 𐳞 𐳟 𐳠 𐳡 𐳢 𐳣 𐳤 𐳥 𐳦 𐳧 𐳨 𐳩 𐳪 𐳫 𐳬 𐳭 𐳮 𐳯 𐳰"),
    (0x10CB1, "𐳱 𐳲"),
    (0x10D50, "𐵰 𐵱 𐵲 𐵳 𐵴 𐵵 𐵶 𐵷 𐵸 𐵹 𐵺 𐵻 𐵼 𐵽 𐵾 𐵿 𐶀 𐶁 𐶂 𐶃 𐶄 𐶅"),
    (0x118A0, "𑣀 𑣁 𑣂 𑣃 𑣄 𑣅 𑣆 𑣇 𑣈 𑣉 𑣊 𑣋 𑣌 𑣍 𑣎 𑣏 𑣐 𑣑 𑣒 𑣓 𑣔 𑣕 𑣖 𑣗 𑣘 𑣙 𑣚 𑣛 𑣜 𑣝 𑣞 𑣟"),
    (0x16E40, "𖹠 𖹡 𖹢 𖹣 𖹤 𖹥 𖹦 𖹧 𖹨 𖹩 𖹪 𖹫 𖹬 𖹭 𖹮 𖹯 𖹰 𖹱 𖹲 𖹳 𖹴 𖹵 𖹶 𖹷 𖹸 𖹹 𖹺 𖹻 𖹼 𖹽 𖹾 𖹿"),
    (0x16EA0, "𖺻 𖺼 𖺽 𖺾 𖺿 𖻀 𖻁 𖻂 𖻃 𖻄 𖻅 𖻆 𖻇 𖻈 𖻉 𖻊 𖻋 𖻌 𖻍 𖻎 𖻏 𖻐 𖻑 𖻒 𖻓"),
    (0x1CCD6, "a b c d e f g h i j k l m n o p q r s t u v w x y z 0 1 2 3 4 5 6 7 8 9"),
    (0x1D15E, "𝅗𝅥 𝅘𝅥 𝅘𝅥𝅮 𝅘𝅥𝅯 𝅘𝅥𝅰 𝅘𝅥𝅱 𝅘𝅥𝅲"),
    (0x1D1BB, "𝆹𝅥 𝆺𝅥 𝆹𝅥𝅮 𝆺𝅥𝅮 𝆹𝅥𝅯 𝆺𝅥𝅯"),
    (0x1D400, "a b c d e f g h i j k l m n o p q r s t u v w x y z a b c d e f g h i j k l m n o p q r s t u v w"),
    (0x1D431, "x y z a b c d e f g h i j k l m n o p q r s t u v w x y z a b c d e f g"),
    (0x1D456, "i j k l m n o p q r s t u v w x y z a b c d e f g h i j k l m n o p q r s t u v w x y z a b c d e"),
    (0x1D487, "f g h i j k l m n o p q r s t u v w x y z a"),
    (0x1D49E, "c d"),
    (0x1D4A2, "g"),
    (0x1D4A5, "j k"),
    (0x1D4A9, "n o p q"),
    (0x1D4AE, "s t u v w x y z a b c d"),
    (0x1D4BB, "f"),
    (0x1D4BD, "h i j k l m n"),
    (0x1D4C5, "p q r s t u v w x y z a b c d e f g h i j k l m n o p q r s t u v w x y z a b c d e f g h i j k l"),
    (0x1D4F6, "m n o p q r s t u v w x y z a b"),
    (0x1D507, "d e f g"),
    (0x1D50D, "j k l m n o p q"),
    (0x1D516, "s t u v w x y"),
    (0x1D51E, "a b c d e f g h i j k l m n o p q r s t u v w x y z a b"),
    (0x1D53B, "d e f g"),
    (0x1D540, "i j k l m"),
    (0x1D546, "o"),
    (0x1D54A, "s t u v w x y"),
    (0x1D552, "a b c d e f g h i j k l m n o p q r s t u v w x y z a b c d e f g h i j k l m n o p q r s t u v w"),
    (0x1D583, "x y z a b c d e f g h i j k l m n o p q r s t u v w x y z a b c d e f g h i j k l m n o p q r s t"),
    (0x1D5B4, "u v w x y z a b c d e f g h i j k l m n o p q r s t u v w x y z a b c d e f g h i j k l m n o p q"),
    (0x1D5E5, "r s t u v w x y z a b c d e f g h i j k l m n o p q r s t u v w x y z a b c d e f g h i j k l m n"),
    (0x1D616, "o p q r s t u v w x y z a b c d e f g h i j k l m n o p q r s t u v w x y z a b c d e f g h i j k"),
    (0x1D647, "l m n o p q r s t u v w x y z a b c d e f g h i j k l m n o p q r s t u v w x y z a b c d e f g h"),
    (0x1D678, "i j k l m n o p q r s t u v w x y z a b c d e f g h i j k l m n o p q r s t u v w x y z ı ȷ"),
    (0x1D6A8, "α β γ δ ε ζ η θ ι κ λ μ ν ξ ο π ρ θ σ τ υ φ χ ψ ω ∇ α β γ δ ε ζ η θ ι κ λ μ ν ξ ο π ρ σ σ τ υ φ χ"),
    (0x1D6D9, "ψ ω ∂ ε θ κ φ ρ π α β γ δ ε ζ η θ ι κ λ μ ν ξ ο π ρ θ σ τ υ φ χ ψ ω ∇ α β γ δ ε ζ η θ ι κ λ μ ν ξ"),
    (0x1D70A, "ο π ρ σ σ τ υ φ χ ψ ω ∂ ε θ κ φ ρ π α β γ δ ε ζ η θ ι κ λ μ ν ξ ο π ρ θ σ τ υ φ χ ψ ω ∇ α β γ δ ε"),
    (0x1D73B, "ζ η θ ι κ λ μ ν ξ ο π ρ σ σ τ υ φ χ ψ ω ∂ ε θ κ φ ρ π α β γ δ ε ζ η θ ι κ λ μ ν ξ ο π ρ θ σ τ υ φ"),
    (0x1D76C, "χ ψ ω ∇ α β γ δ ε ζ η θ ι κ λ μ ν ξ ο π ρ σ σ τ υ φ χ ψ ω ∂ ε θ κ φ ρ π α β γ δ ε ζ η θ ι κ λ μ ν"),
    (0x1D79D, "ξ ο π ρ θ σ τ υ φ χ ψ ω ∇ α β γ δ ε ζ η θ ι κ λ μ ν ξ ο π ρ σ σ τ υ φ χ ψ ω ∂ ε θ κ φ ρ π ϝ ϝ"),
    (0x1D7CE, "0 1 2 3 4 5 6 7 8 9 0 1 2 3 4 5 6 7 8 9 0 1 2 3 4 5 6 7 8 9 0 1 2 3 4 5 6 7 8 9 0 1 2 3 4 5 6 7 8"),
    (0x1D7FF, "9"),
    (0x1E030, "а б в г д е ж з и к л м о п р с т у ф х ц ч ш ы э ю ꚉ ә і ј ө ү ӏ а б в г д е ж з и к л о п с у ф"),
    (0x1E061, "х ц ч ш ъ ы ґ і ѕ џ ҫ ꙑ ұ"),
    (0x1E900, "𞤢 𞤣 𞤤 𞤥 𞤦 𞤧 𞤨 𞤩 𞤪 𞤫 𞤬 𞤭 𞤮 𞤯 𞤰 𞤱 𞤲 𞤳 𞤴 𞤵 𞤶 𞤷 𞤸 𞤹 𞤺 𞤻 𞤼 𞤽 𞤾 𞤿 𞥀 𞥁 𞥂 𞥃"),
    (0x1EE00, "ا ب ج د"),
    (0x1EE05, "و ز ح ط ي ك ل م ن س ع ف ص ق ر ش ت ث خ ذ ض ظ غ ٮ ں ڡ ٯ"),
    (0x1EE21, "ب ج"),
    (0x1EE24, "ه"),
    (0x1EE27, "ح"),
    (0x1EE29, "ي ك ل م ن س ع ف ص ق"),
    (0x1EE34, "ش ت ث خ"),
    (0x1EE39, "ض"),
    (0x1EE3B, "غ"),
    (0x1EE42, "ج"),
    (0x1EE47, "ح"),
    (0x1EE49, "ي"),
    (0x1EE4B, "ل"),
    (0x1EE4D, "ن س ع"),
    (0x1EE51, "ص ق"),
    (0x1EE54, "ش"),
    (0x1EE57, "خ"),
    (0x1EE59, "ض"),
    (0x1EE5B, "غ"),
    (0x1EE5D, "ں"),
    (0x1EE5F, "ٯ"),
    (0x1EE61, "ب ج"),
    (0x1EE64, "ه"),
    (0x1EE67, "ح ط ي ك"),
    (0x1EE6C, "م ن س ع ف ص ق"),
    (0x1EE74, "ش ت ث خ"),
    (0x1EE79, "ض ظ غ ٮ"),
    (0x1EE7E, "ڡ"),
    (0x1EE80, "ا ب ج د ه و ز ح ط ي"),
    (0x1EE8B, "ل م ن س ع ف ص ق ر ش ت ث خ ذ ض ظ غ"),
    (0x1EEA1, "ب ج د"),
    (0x1EEA5, "و ز ح ط ي"),
    (0x1EEAB, "ل م ن س ع ف ص ق ر ش ت ث خ ذ ض ظ غ"),
    (0x1F101, "0, 1, 2, 3, 4, 5, 6, 7, 8, 9,"),
    (0x1F110, "(a) (b) (c) (d) (e) (f) (g) (h) (i) (j) (k) (l) (m) (n) (o) (p) (q) (r) (s) (t) (u) (v) (w) (x)"),
    (0x1F128, "(y) (z) 〔s〕 c r cd wz 🄯 a b c d e f g h i j k l m n o p q r s t u v w x y z hv mv sd ss ppv wc"),
    (0x1F16A, "mc md mr"),
    (0x1F190, "dj"),
    (0x1F200, "ほか ココ サ"),
    (0x1F210, "手 字 双 デ 二 多 解 天 交 映 無 料 前 後 再 新 初 終 生 販 声 吹 演 投 捕 一 三 遊 左 中 右 指"),
    (0x1F230, "走 打 禁 空 合 満 有 月 申 割 営 配"),
    (0x1F240, "〔本〕 〔三〕 〔二〕 〔安〕 〔点〕 〔打〕 〔盗〕 〔勝〕 〔敗〕"),
    (0x1F250, "得 可"),
    (0x1FBF0, "0 1 2 3 4 5 6 7 8 9"),
    (0x2F800, "丽 丸 乁 𠄢 你 侮 侻 倂 偺 備 僧 像 㒞 𠘺 免 兔 兤 具 𠔜 㒹 內 再 𠕋 冗 冤 仌 冬 况 𩇟 凵 刃 㓟"),
    (0x2F820, "刻 剆 割 剷 㔕 勇 勉 勤 勺 包 匆 北 卉 卑 博 即 卽 卿 卿 卿 𠨬 灰 及 叟 𠭣 叫 叱 吆 咞 吸 呈 周"),
    (0x2F840, "咢 哶 唐 啓 啣 善 善 喙 喫 喳 嗂 圖 嘆 圗 噑 噴 切 壮 城 埴 堍 型 堲 報 墬 𡓤 売 壷 夆 多 夢 奢"),
    (0x2F860, "𡚨 𡛪 姬 娛 娧 姘 婦 㛮 㛼 嬈 嬾 嬾 𡧈 寃 寘 寧 寳 𡬘 寿 将 当 尢 㞁 屠 屮 峀 岍 𡷤 嵃 𡷦 嵮 嵫"),
    (0x2F880, "嵼 巡 巢 㠯 巽 帨 帽 幩 㡢 𢆃 㡼 庰 庳 庶 廊 𪎒 廾 𢌱 𢌱 舁 弢 弢 㣇 𣊸 𦇚 形 彫 㣣 徚 忍 志 忹"),
    (0x2F8A0, "悁 㤺 㤜 悔 𢛔 惇 慈 慌 慎 慌 慺 憎 憲 憤 憯 懞 懲 懶 成 戛 扝 抱 拔 捐 𢬌 挽 拼 捨 掃 揤 𢯱 搢"),
    (0x2F8C0, "揅 掩 㨮 摩 摾 撝 摷 㩬 敏 敬 𣀊 旣 書 晉 㬙 暑 㬈 㫤 冒 冕 最 暜 肭 䏙 朗 望 朡 杞 杓 𣏃 㭉 柺"),
    (0x2F8E0, "枅 桒 梅 𣑭 梎 栟 椔 㮝 楂 榣 槪 檨 𣚣 櫛 㰘 次 𣢧 歔 㱎 歲 殟 殺 殻 𣪍 𡴋 𣫺 汎 𣲼 沿 泍 汧 洖"),
    (0x2F900, "派 海 流 浩 浸 涅 𣴞 洴 港 湮 㴳 滋 滇 𣻑 淹 潮 𣽞 𣾎 濆 瀹 瀞 瀛 㶖 灊 災 灷 炭 𠔥 煅 𤉣 熜 𤎫"),
    (0x2F920, "爨 爵 牐 𤘈 犀 犕 𤜵 𤠔 獺 王 㺬 玥 㺸 㺸 瑇 瑜 瑱 璅 瓊 㼛 甤 𤰶 甾 𤲒 異 𢆟 瘐 𤾡 𤾸 𥁄 㿼 䀈"),
    (0x2F940, "直 𥃳 𥃲 𥄙 𥄳 眞 真 真 睊 䀹 瞋 䁆 䂖 𥐝 硎 碌 磌 䃣 𥘦 祖 𥚚 𥛅 福 秫 䄯 穀 穊 穏 𥥼 𥪧 𥪧 竮"),
    (0x2F960, "䈂 𥮫 篆 築 䈧 𥲀 糒 䊠 糨 糣 紀 𥾆 絣 䌁 緇 縂 繅 䌴 𦈨 𦉇 䍙 𦋙 罺 𦌾 羕 翺 者 𦓚 𦔣 聠 𦖨 聰"),
    (0x2F980, "𣍟 䏕 育 脃 䐋 脾 媵 𦞧 𦞵 𣎓 𣎜 舁 舄 辞 䑫 芑 芋 芝 劳 花 芳 芽 苦 𦬼 若 茝 荣 莭 茣 莽 菧 著"),
    (0x2F9A0, "荓 菊 菌 菜 𦰶 𦵫 𦳕 䔫 蓱 蓳 蔖 𧏊 蕤 𦼬 䕝 䕡 𦾱 𧃒 䕫 虐 虜 虧 虩 蚩 蚈 蜎 蛢 蝹 蜨 蝫 螆 䗗"),
    (0x2F9C0, "蟡 蠁 䗹 衠 衣 𧙧 裗 裞 䘵 裺 㒻 𧢮 𧥦 䚾 䛇 誠 諭 變 豕 𧲨 貫 賁 贛 起 𧼯 𠠄 跋 趼 跰 𠣞 軔 輸"),
    (0x2F9E0, "𨗒 𨗭 邔 郱 鄑 𨜮 鄛 鈸 鋗 鋘 鉼 鏹 鐕 𨯺 開 䦕 閷 𨵷 䧦 雃 嶲 霣 𩅅 𩈚 䩮 䩶 韠 𩐊 䪲 𩒖 頋 頋"),
    (0x2FA00, "頩 𩖶 飢 䬳 餩 馧 駂 駾 䯎 𩬰 鬒 鱀 鳽 䳎 䳭 鵧 𪃎 䳸 𪄅 𪈎 𪊑 麻 䵖 黹 黾 鼅 鼏 鼖 鼻 𪘀")]

/-- The usual forms, by the first character of their line, in the order of the characters. -/
def lines : List (Nat × List (List Char)) :=
  (letters ++ symbols ++ wideScripts ++ presentation ++ further).map fun (first, forms) =>
    (first, Text.words forms.toList)

/-- The usual form of a character, which the last line that starts at or before it gives, if any does. -/
def usualForm? (c : Char) : Option (List Char) :=
  match (lines.takeWhile fun line => line.1 ≤ c.toNat).getLast? with
  | none => none
  | some (first, forms) => forms[c.toNat - first]?

end Spelling

end Host

end Target

end StaticServer
