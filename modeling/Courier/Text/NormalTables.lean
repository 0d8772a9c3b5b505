/-!
Characters that have another spelling: as two others, as another one, or, where only the form differs, as what they mean.
A run starts at a code point and spells the characters from there on, one after the other. Marks have classes, by which
those that follow one character are put in order.
-/

namespace Courier.Text.NormalTables

/-- Characters that are a character and a mark: two for each. -/
def pairs : List (Nat × String) := [
  (0x00C0, "A\u0300A\u0301A\u0302A\u0303A\u0308A\u030a"),
  (0x00C7, "C\u0327E\u0300E\u0301E\u0302E\u0308I\u0300I\u0301I\u0302I\u0308"),
  (0x00D1, "N\u0303O\u0300O\u0301O\u0302O\u0303O\u0308"), (0x00D9, "U\u0300U\u0301U\u0302U\u0308Y\u0301"),
  (0x00E0, "a\u0300a\u0301a\u0302a\u0303a\u0308a\u030a"),
  (0x00E7, "c\u0327e\u0300e\u0301e\u0302e\u0308i\u0300i\u0301i\u0302i\u0308"),
  (0x00F1, "n\u0303o\u0300o\u0301o\u0302o\u0303o\u0308"), (0x00F9, "u\u0300u\u0301u\u0302u\u0308y\u0301"),
  (0x00FF, "y\u0308A\u0304a\u0304A\u0306a\u0306A\u0328a\u0328C\u0301c\u0301C\u0302c\u0302C\u0307"),
  (0x010B, "c\u0307C\u030cc\u030cD\u030cd\u030c"),
  (0x0112, "E\u0304e\u0304E\u0306e\u0306E\u0307e\u0307E\u0328e\u0328E\u030ce\u030cG\u0302g\u0302"),
  (0x011E, "G\u0306g\u0306G\u0307g\u0307G\u0327g\u0327H\u0302h\u0302"),
  (0x0128, "I\u0303i\u0303I\u0304i\u0304I\u0306i\u0306I\u0328i\u0328I\u0307"),
  (0x0134, "J\u0302j\u0302K\u0327k\u0327"), (0x0139, "L\u0301l\u0301L\u0327l\u0327L\u030cl\u030c"),
  (0x0143, "N\u0301n\u0301N\u0327n\u0327N\u030cn\u030c"),
  (0x014C, "O\u0304o\u0304O\u0306o\u0306O\u030bo\u030b"),
  (0x0154, "R\u0301r\u0301R\u0327r\u0327R\u030cr\u030cS\u0301s\u0301S\u0302s\u0302S\u0327s\u0327"),
  (0x0160, "S\u030cs\u030cT\u0327t\u0327T\u030ct\u030c"),
  (0x0168, "U\u0303u\u0303U\u0304u\u0304U\u0306u\u0306U\u030au\u030aU\u030bu\u030bU\u0328u\u0328"),
  (0x0174, "W\u0302w\u0302Y\u0302y\u0302Y\u0308Z\u0301z\u0301Z\u0307z\u0307Z\u030cz\u030c"),
  (0x01A0, "O\u031bo\u031b"), (0x01AF, "U\u031bu\u031b"),
  (0x01CD, "A\u030ca\u030cI\u030ci\u030cO\u030co\u030cU\u030cu\u030cÜ\u0304ü\u0304Ü\u0301ü\u0301"),
  (0x01D9, "Ü\u030cü\u030cÜ\u0300ü\u0300"), (0x01DE, "Ä\u0304ä\u0304Ȧ\u0304ȧ\u0304Æ\u0304æ\u0304"),
  (0x01E6, "G\u030cg\u030cK\u030ck\u030cO\u0328o\u0328Ǫ\u0304ǫ\u0304Ʒ\u030cʒ\u030cj\u030c"),
  (0x01F4, "G\u0301g\u0301"),
  (0x01F8, "N\u0300n\u0300Å\u0301å\u0301Æ\u0301æ\u0301Ø\u0301ø\u0301A\u030fa\u030fA\u0311a\u0311"),
  (0x0204, "E\u030fe\u030fE\u0311e\u0311I\u030fi\u030fI\u0311i\u0311O\u030fo\u030fO\u0311o\u0311"),
  (0x0210, "R\u030fr\u030fR\u0311r\u0311U\u030fu\u030fU\u0311u\u0311S\u0326s\u0326T\u0326t\u0326"),
  (0x021E, "H\u030ch\u030c"),
  (0x0226, "A\u0307a\u0307E\u0327e\u0327Ö\u0304ö\u0304Õ\u0304õ\u0304O\u0307o\u0307Ȯ\u0304ȯ\u0304"),
  (0x0232, "Y\u0304y\u0304"), (0x0344, "\u0308\u0301"), (0x0385, "¨\u0301Α\u0301"),
  (0x0388, "Ε\u0301Η\u0301Ι\u0301"), (0x038C, "Ο\u0301"), (0x038E, "Υ\u0301Ω\u0301ϊ\u0301"),
  (0x03AA, "Ι\u0308Υ\u0308α\u0301ε\u0301η\u0301ι\u0301ϋ\u0301"),
  (0x03CA, "ι\u0308υ\u0308ο\u0301υ\u0301ω\u0301"), (0x03D3, "ϒ\u0301ϒ\u0308"), (0x0400, "Е\u0300Е\u0308"),
  (0x0403, "Г\u0301"), (0x0407, "І\u0308"), (0x040C, "К\u0301И\u0300У\u0306"), (0x0419, "И\u0306"),
  (0x0439, "и\u0306"), (0x0450, "е\u0300е\u0308"), (0x0453, "г\u0301"), (0x0457, "і\u0308"),
  (0x045C, "к\u0301и\u0300у\u0306"), (0x0476, "Ѵ\u030fѵ\u030f"), (0x04C1, "Ж\u0306ж\u0306"),
  (0x04D0, "А\u0306а\u0306А\u0308а\u0308"), (0x04D6, "Е\u0306е\u0306"),
  (0x04DA, "Ә\u0308ә\u0308Ж\u0308ж\u0308З\u0308з\u0308"),
  (0x04E2, "И\u0304и\u0304И\u0308и\u0308О\u0308о\u0308"),
  (0x04EA, "Ө\u0308ө\u0308Э\u0308э\u0308У\u0304у\u0304У\u0308у\u0308У\u030bу\u030bЧ\u0308ч\u0308"),
  (0x04F8, "Ы\u0308ы\u0308"), (0x0622, "\u0627\u0653\u0627\u0654\u0648\u0654\u0627\u0655\u064a\u0654"),
  (0x06C0, "\u06d5\u0654"), (0x06C2, "\u06c1\u0654"), (0x06D3, "\u06d2\u0654"), (0x0929, "न\u093c"),
  (0x0931, "र\u093c"), (0x0934, "ळ\u093c"),
  (0x0958, "क\u093cख\u093cग\u093cज\u093cड\u093cढ\u093cफ\u093cय\u093c"), (0x09CB, "\u09c7\u09be\u09c7\u09d7"),
  (0x09DC, "ড\u09bcঢ\u09bc"), (0x09DF, "য\u09bc"), (0x0A33, "ਲ\u0a3c"), (0x0A36, "ਸ\u0a3c"),
  (0x0A59, "ਖ\u0a3cਗ\u0a3cਜ\u0a3c"), (0x0A5E, "ਫ\u0a3c"), (0x0B48, "\u0b47\u0b56"),
  (0x0B4B, "\u0b47\u0b3e\u0b47\u0b57"), (0x0B5C, "ଡ\u0b3cଢ\u0b3c"), (0x0B94, "ஒ\u0bd7"),
  (0x0BCA, "\u0bc6\u0bbe\u0bc7\u0bbe\u0bc6\u0bd7"), (0x0C48, "\u0c46\u0c56"), (0x0CC0, "\u0cbf\u0cd5"),
  (0x0CC7, "\u0cc6\u0cd5\u0cc6\u0cd6"), (0x0CCA, "\u0cc6\u0cc2\u0cca\u0cd5"),
  (0x0D4A, "\u0d46\u0d3e\u0d47\u0d3e\u0d46\u0d57"), (0x0DDA, "\u0dd9\u0dca"),
  (0x0DDC, "\u0dd9\u0dcf\u0ddc\u0dca\u0dd9\u0ddf"), (0x0F43, "ག\u0fb7"), (0x0F4D, "ཌ\u0fb7"),
  (0x0F52, "ད\u0fb7"), (0x0F57, "བ\u0fb7"), (0x0F5C, "ཛ\u0fb7"), (0x0F69, "ཀ\u0fb5"), (0x0F73, "\u0f71\u0f72"),
  (0x0F75, "\u0f71\u0f74\u0fb2\u0f80"), (0x0F78, "\u0fb3\u0f80"), (0x0F81, "\u0f71\u0f80"),
  (0x0F93, "\u0f92\u0fb7"), (0x0F9D, "\u0f9c\u0fb7"), (0x0FA2, "\u0fa1\u0fb7"), (0x0FA7, "\u0fa6\u0fb7"),
  (0x0FAC, "\u0fab\u0fb7"), (0x0FB9, "\u0f90\u0fb5"), (0x1026, "ဥ\u102e"), (0x1B06, "ᬅ\u1b35"),
  (0x1B08, "ᬇ\u1b35"), (0x1B0A, "ᬉ\u1b35"), (0x1B0C, "ᬋ\u1b35"), (0x1B0E, "ᬍ\u1b35"), (0x1B12, "ᬑ\u1b35"),
  (0x1B3B, "\u1b3a\u1b35"), (0x1B3D, "\u1b3c\u1b35"), (0x1B40, "\u1b3e\u1b35\u1b3f\u1b35"),
  (0x1B43, "\u1b42\u1b35"),
  (0x1E00, "A\u0325a\u0325B\u0307b\u0307B\u0323b\u0323B\u0331b\u0331Ç\u0301ç\u0301D\u0307d\u0307"),
  (0x1E0C, "D\u0323d\u0323D\u0331d\u0331D\u0327d\u0327D\u032dd\u032dĒ\u0300ē\u0300Ē\u0301ē\u0301"),
  (0x1E18, "E\u032de\u032dE\u0330e\u0330Ȩ\u0306ȩ\u0306F\u0307f\u0307G\u0304g\u0304H\u0307h\u0307"),
  (0x1E24, "H\u0323h\u0323H\u0308h\u0308H\u0327h\u0327H\u032eh\u032eI\u0330i\u0330Ï\u0301ï\u0301"),
  (0x1E30, "K\u0301k\u0301K\u0323k\u0323K\u0331k\u0331L\u0323l\u0323Ḷ\u0304ḷ\u0304L\u0331l\u0331"),
  (0x1E3C, "L\u032dl\u032dM\u0301m\u0301M\u0307m\u0307M\u0323m\u0323N\u0307n\u0307N\u0323n\u0323"),
  (0x1E48, "N\u0331n\u0331N\u032dn\u032dÕ\u0301õ\u0301Õ\u0308õ\u0308Ō\u0300ō\u0300Ō\u0301ō\u0301"),
  (0x1E54, "P\u0301p\u0301P\u0307p\u0307R\u0307r\u0307R\u0323r\u0323Ṛ\u0304ṛ\u0304R\u0331r\u0331"),
  (0x1E60, "S\u0307s\u0307S\u0323s\u0323Ś\u0307ś\u0307Š\u0307š\u0307Ṣ\u0307ṣ\u0307T\u0307t\u0307"),
  (0x1E6C, "T\u0323t\u0323T\u0331t\u0331T\u032dt\u032dU\u0324u\u0324U\u0330u\u0330U\u032du\u032d"),
  (0x1E78, "Ũ\u0301ũ\u0301Ū\u0308ū\u0308V\u0303v\u0303V\u0323v\u0323W\u0300w\u0300W\u0301w\u0301"),
  (0x1E84, "W\u0308w\u0308W\u0307w\u0307W\u0323w\u0323X\u0307x\u0307X\u0308x\u0308Y\u0307y\u0307"),
  (0x1E90, "Z\u0302z\u0302Z\u0323z\u0323Z\u0331z\u0331h\u0331t\u0308w\u030ay\u030a"), (0x1E9B, "ſ\u0307"),
  (0x1EA0, "A\u0323a\u0323A\u0309a\u0309Â\u0301â\u0301Â\u0300â\u0300Â\u0309â\u0309Â\u0303â\u0303"),
  (0x1EAC, "Ạ\u0302ạ\u0302Ă\u0301ă\u0301Ă\u0300ă\u0300Ă\u0309ă\u0309Ă\u0303ă\u0303Ạ\u0306ạ\u0306"),
  (0x1EB8, "E\u0323e\u0323E\u0309e\u0309E\u0303e\u0303Ê\u0301ê\u0301Ê\u0300ê\u0300Ê\u0309ê\u0309"),
  (0x1EC4, "Ê\u0303ê\u0303Ẹ\u0302ẹ\u0302I\u0309i\u0309I\u0323i\u0323O\u0323o\u0323O\u0309o\u0309"),
  (0x1ED0, "Ô\u0301ô\u0301Ô\u0300ô\u0300Ô\u0309ô\u0309Ô\u0303ô\u0303Ọ\u0302ọ\u0302Ơ\u0301ơ\u0301"),
  (0x1EDC, "Ơ\u0300ơ\u0300Ơ\u0309ơ\u0309Ơ\u0303ơ\u0303Ơ\u0323ơ\u0323U\u0323u\u0323U\u0309u\u0309"),
  (0x1EE8, "Ư\u0301ư\u0301Ư\u0300ư\u0300Ư\u0309ư\u0309Ư\u0303ư\u0303Ư\u0323ư\u0323Y\u0300y\u0300"),
  (0x1EF4, "Y\u0323y\u0323Y\u0309y\u0309Y\u0303y\u0303"),
  (0x1F00, "α\u0313α\u0314ἀ\u0300ἁ\u0300ἀ\u0301ἁ\u0301ἀ\u0342ἁ\u0342Α\u0313Α\u0314Ἀ\u0300Ἁ\u0300"),
  (0x1F0C, "Ἀ\u0301Ἁ\u0301Ἀ\u0342Ἁ\u0342ε\u0313ε\u0314ἐ\u0300ἑ\u0300ἐ\u0301ἑ\u0301"),
  (0x1F18, "Ε\u0313Ε\u0314Ἐ\u0300Ἑ\u0300Ἐ\u0301Ἑ\u0301"),
  (0x1F20, "η\u0313η\u0314ἠ\u0300ἡ\u0300ἠ\u0301ἡ\u0301ἠ\u0342ἡ\u0342Η\u0313Η\u0314Ἠ\u0300Ἡ\u0300"),
  (0x1F2C, "Ἠ\u0301Ἡ\u0301Ἠ\u0342Ἡ\u0342ι\u0313ι\u0314ἰ\u0300ἱ\u0300ἰ\u0301ἱ\u0301ἰ\u0342ἱ\u0342"),
  (0x1F38, "Ι\u0313Ι\u0314Ἰ\u0300Ἱ\u0300Ἰ\u0301Ἱ\u0301Ἰ\u0342Ἱ\u0342ο\u0313ο\u0314ὀ\u0300ὁ\u0300"),
  (0x1F44, "ὀ\u0301ὁ\u0301"), (0x1F48, "Ο\u0313Ο\u0314Ὀ\u0300Ὁ\u0300Ὀ\u0301Ὁ\u0301"),
  (0x1F50, "υ\u0313υ\u0314ὐ\u0300ὑ\u0300ὐ\u0301ὑ\u0301ὐ\u0342ὑ\u0342"), (0x1F59, "Υ\u0314"),
  (0x1F5B, "Ὑ\u0300"), (0x1F5D, "Ὑ\u0301"),
  (0x1F5F, "Ὑ\u0342ω\u0313ω\u0314ὠ\u0300ὡ\u0300ὠ\u0301ὡ\u0301ὠ\u0342ὡ\u0342Ω\u0313Ω\u0314Ὠ\u0300"),
  (0x1F6B, "Ὡ\u0300Ὠ\u0301Ὡ\u0301Ὠ\u0342Ὡ\u0342α\u0300"), (0x1F72, "ε\u0300"), (0x1F74, "η\u0300"),
  (0x1F76, "ι\u0300"), (0x1F78, "ο\u0300"), (0x1F7A, "υ\u0300"), (0x1F7C, "ω\u0300"),
  (0x1F80, "ἀ\u0345ἁ\u0345ἂ\u0345ἃ\u0345ἄ\u0345ἅ\u0345ἆ\u0345ἇ\u0345Ἀ\u0345Ἁ\u0345Ἂ\u0345Ἃ\u0345"),
  (0x1F8C, "Ἄ\u0345Ἅ\u0345Ἆ\u0345Ἇ\u0345ἠ\u0345ἡ\u0345ἢ\u0345ἣ\u0345ἤ\u0345ἥ\u0345ἦ\u0345ἧ\u0345"),
  (0x1F98, "Ἠ\u0345Ἡ\u0345Ἢ\u0345Ἣ\u0345Ἤ\u0345Ἥ\u0345Ἦ\u0345Ἧ\u0345ὠ\u0345ὡ\u0345ὢ\u0345ὣ\u0345"),
  (0x1FA4, "ὤ\u0345ὥ\u0345ὦ\u0345ὧ\u0345Ὠ\u0345Ὡ\u0345Ὢ\u0345Ὣ\u0345Ὤ\u0345Ὥ\u0345Ὦ\u0345Ὧ\u0345"),
  (0x1FB0, "α\u0306α\u0304ὰ\u0345α\u0345ά\u0345"), (0x1FB6, "α\u0342ᾶ\u0345Α\u0306Α\u0304Α\u0300"),
  (0x1FBC, "Α\u0345"), (0x1FC1, "¨\u0342ὴ\u0345η\u0345ή\u0345"), (0x1FC6, "η\u0342ῆ\u0345Ε\u0300"),
  (0x1FCA, "Η\u0300"), (0x1FCC, "Η\u0345᾿\u0300᾿\u0301᾿\u0342ι\u0306ι\u0304ϊ\u0300"),
  (0x1FD6, "ι\u0342ϊ\u0342Ι\u0306Ι\u0304Ι\u0300"), (0x1FDD, "῾\u0300῾\u0301῾\u0342υ\u0306υ\u0304ϋ\u0300"),
  (0x1FE4, "ρ\u0313ρ\u0314υ\u0342ϋ\u0342Υ\u0306Υ\u0304Υ\u0300"), (0x1FEC, "Ρ\u0314¨\u0300"),
  (0x1FF2, "ὼ\u0345ω\u0345ώ\u0345"), (0x1FF6, "ω\u0342ῶ\u0345Ο\u0300"), (0x1FFA, "Ω\u0300"),
  (0x1FFC, "Ω\u0345"), (0x219A, "←\u0338→\u0338"), (0x21AE, "↔\u0338"), (0x21CD, "⇐\u0338⇔\u0338⇒\u0338"),
  (0x2204, "∃\u0338"), (0x2209, "∈\u0338"), (0x220C, "∋\u0338"), (0x2224, "∣\u0338"), (0x2226, "∥\u0338"),
  (0x2241, "∼\u0338"), (0x2244, "≃\u0338"), (0x2247, "≅\u0338"), (0x2249, "≈\u0338"), (0x2260, "=\u0338"),
  (0x2262, "≡\u0338"), (0x226D, "≍\u0338<\u0338>\u0338≤\u0338≥\u0338"), (0x2274, "≲\u0338≳\u0338"),
  (0x2278, "≶\u0338≷\u0338"), (0x2280, "≺\u0338≻\u0338"), (0x2284, "⊂\u0338⊃\u0338"),
  (0x2288, "⊆\u0338⊇\u0338"), (0x22AC, "⊢\u0338⊨\u0338⊩\u0338⊫\u0338"),
  (0x22E0, "≼\u0338≽\u0338⊑\u0338⊒\u0338"), (0x22EA, "⊲\u0338⊳\u0338⊴\u0338⊵\u0338"), (0x2ADC, "⫝\u0338"),
  (0x304C, "か\u3099"), (0x304E, "き\u3099"), (0x3050, "く\u3099"), (0x3052, "け\u3099"), (0x3054, "こ\u3099"),
  (0x3056, "さ\u3099"), (0x3058, "し\u3099"), (0x305A, "す\u3099"), (0x305C, "せ\u3099"), (0x305E, "そ\u3099"),
  (0x3060, "た\u3099"), (0x3062, "ち\u3099"), (0x3065, "つ\u3099"), (0x3067, "て\u3099"), (0x3069, "と\u3099"),
  (0x3070, "は\u3099は\u309a"), (0x3073, "ひ\u3099ひ\u309a"), (0x3076, "ふ\u3099ふ\u309a"),
  (0x3079, "へ\u3099へ\u309a"), (0x307C, "ほ\u3099ほ\u309a"), (0x3094, "う\u3099"), (0x309E, "ゝ\u3099"),
  (0x30AC, "カ\u3099"), (0x30AE, "キ\u3099"), (0x30B0, "ク\u3099"), (0x30B2, "ケ\u3099"), (0x30B4, "コ\u3099"),
  (0x30B6, "サ\u3099"), (0x30B8, "シ\u3099"), (0x30BA, "ス\u3099"), (0x30BC, "セ\u3099"), (0x30BE, "ソ\u3099"),
  (0x30C0, "タ\u3099"), (0x30C2, "チ\u3099"), (0x30C5, "ツ\u3099"), (0x30C7, "テ\u3099"), (0x30C9, "ト\u3099"),
  (0x30D0, "ハ\u3099ハ\u309a"), (0x30D3, "ヒ\u3099ヒ\u309a"), (0x30D6, "フ\u3099フ\u309a"),
  (0x30D9, "ヘ\u3099ヘ\u309a"), (0x30DC, "ホ\u3099ホ\u309a"), (0x30F4, "ウ\u3099"),
  (0x30F7, "ワ\u3099ヰ\u3099ヱ\u3099ヲ\u3099"), (0x30FE, "ヽ\u3099"), (0xFB1D, "\u05d9\u05b4"),
  (0xFB1F, "\u05f2\u05b7"),
  (0xFB2A, "\u05e9\u05c1\u05e9\u05c2\ufb49\u05c1\ufb49\u05c2\u05d0\u05b7\u05d0\u05b8\u05d0\u05bc"),
  (0xFB31, "\u05d1\u05bc\u05d2\u05bc\u05d3\u05bc\u05d4\u05bc\u05d5\u05bc\u05d6\u05bc"),
  (0xFB38, "\u05d8\u05bc\u05d9\u05bc\u05da\u05bc\u05db\u05bc\u05dc\u05bc"), (0xFB3E, "\u05de\u05bc"),
  (0xFB40, "\u05e0\u05bc\u05e1\u05bc"), (0xFB43, "\u05e3\u05bc\u05e4\u05bc"),
  (0xFB46, "\u05e6\u05bc\u05e7\u05bc\u05e8\u05bc\u05e9\u05bc\u05ea\u05bc\u05d5\u05b9\u05d1\u05bf"),
  (0xFB4D, "\u05db\u05bf\u05e4\u05bf"), (0x1109A, "𑂚"), (0x1109C, "𑂜"), (0x110AB, "𑂫"), (0x1112E, "𑄮𑄯"),
  (0x1134B, "𑍋𑍌"), (0x114BB, "𑒻𑒼"), (0x114BE, "𑒾"), (0x115BA, "𑖺𑖻"), (0x11938, "𑤸"),
  (0x1D15E, "𝅗𝅥𝅘𝅥𝅘𝅥𝅮𝅘𝅥𝅯𝅘𝅥𝅰𝅘𝅥𝅱𝅘𝅥𝅲"), (0x1D1BB, "𝆹𝅥𝆺𝅥𝆹𝅥𝅮𝆺𝅥𝅮𝆹𝅥𝅯𝆺𝅥𝅯")]

/-- Characters among them that are not put together again. -/
def separate : List Nat := [
  836, 2392, 2393, 2394, 2395, 2396, 2397, 2398, 2399, 2524, 2525, 2527, 2611, 2614, 2649, 2650, 2651,
  2654, 2908, 2909, 3907, 3917, 3922, 3927, 3932, 3945, 3955, 3957, 3958, 3960, 3969, 3987, 3997, 4002,
  4007, 4012, 4025, 10972, 64285, 64287, 64298, 64299, 64300, 64301, 64302, 64303, 64304, 64305, 64306,
  64307, 64308, 64309, 64310, 64312, 64313, 64314, 64315, 64316, 64318, 64320, 64321, 64323, 64324,
  64326, 64327, 64328, 64329, 64330, 64331, 64332, 64333, 64334, 119134, 119135, 119136, 119137,
  119138, 119139, 119140, 119227, 119228, 119229, 119230, 119231, 119232]

/-- Characters that are another character. -/
def singles : List (Nat × String) := [
  (0x0340, "\u0300\u0301"), (0x0343, "\u0313"), (0x0374, "ʹ"), (0x037E, ";"), (0x0387, "·"), (0x1F71, "ά"),
  (0x1F73, "έ"), (0x1F75, "ή"), (0x1F77, "ί"), (0x1F79, "ό"), (0x1F7B, "ύ"), (0x1F7D, "ώ"), (0x1FBB, "Ά"),
  (0x1FBE, "ι"), (0x1FC9, "Έ"), (0x1FCB, "Ή"), (0x1FD3, "ΐ"), (0x1FDB, "Ί"), (0x1FE3, "ΰ"), (0x1FEB, "Ύ"),
  (0x1FEE, "΅\x60"), (0x1FF9, "Ό"), (0x1FFB, "Ώ"), (0x1FFD, "´"), (0x2000, "\u2002\u2003"), (0x2126, "Ω"),
  (0x212A, "KÅ"), (0x2329, "〈〉"),
  (0xF900, "豈更車賈滑串句龜龜契金喇奈懶癩羅蘿螺裸邏樂洛烙珞落酪駱亂卵欄爛蘭鸞嵐濫藍襤拉臘蠟廊朗浪"),
  (0xF92B, "狼郎來冷勞擄櫓爐盧老蘆虜路露魯鷺碌祿綠菉錄鹿論壟弄籠聾牢磊賂雷壘屢樓淚漏累縷陋勒肋凜凌"),
  (0xF956, "稜綾菱陵讀拏樂諾丹寧怒率異北磻便復不泌數索參塞省葉說殺辰沈拾若掠略亮兩凉梁糧良諒量勵呂"),
  (0xF981, "女廬旅濾礪閭驪麗黎力曆歷轢年憐戀撚漣煉璉秊練聯輦蓮連鍊列劣咽烈裂說廉念捻殮簾獵令囹寧嶺"),
  (0xF9AC, "怜玲瑩羚聆鈴零靈領例禮醴隸惡了僚寮尿料樂燎療蓼遼龍暈阮劉杻柳流溜琉留硫紐類六戮陸倫崙淪"),
  (0xF9D7, "輪律慄栗率隆利吏履易李梨泥理痢罹裏裡里離匿溺吝燐璘藺隣鱗麟林淋臨立笠粒狀炙識什茶刺切度"),
  (0xFA02, "拓糖宅洞暴輻行降見廓兀嗀"), (0xFA10, "塚"), (0xFA12, "晴"), (0xFA15, "凞猪益礼神祥福靖精羽"),
  (0xFA20, "蘒"), (0xFA22, "諸"), (0xFA25, "逸都"),
  (0xFA2A, "飯飼館鶴郞隷侮僧免勉勤卑喝嘆器塀墨層屮悔慨憎懲敏既暑梅海渚漢煮爫琢碑社祉祈祐祖祝禍禎穀"),
  (0xFA55, "突節練縉繁署者臭艹艹著褐視謁謹賓贈辶逸難響頻恵𤋮舘"),
  (0xFA70, "並况全侀充冀勇勺喝啕喙嗢塚墳奄奔婢嬨廒廙彩徭惘慎愈憎慠懲戴揄搜摒敖晴朗望杖歹殺流滛滋漢"),
  (0xFA9B, "瀞煮瞧爵犯猪瑱甆画瘝瘟益盛直睊着磌窱節类絛練缾者荒華蝹襁覆視調諸請謁諾諭謹變贈輸遲醙鉶"),
  (0xFAC6, "陼難靖韛響頋頻鬒龜𢡊𢡄𣏕㮝䀘䀹𥉉𥳐𧻓齃龎"),
  (0x2F800, "丽丸乁𠄢你侮侻倂偺備僧像㒞𠘺免兔兤具𠔜㒹內再𠕋冗冤仌冬况𩇟凵刃㓟刻剆割剷㔕勇勉勤勺包匆"),
  (0x2F82B, "北卉卑博即卽卿卿卿𠨬灰及叟𠭣叫叱吆咞吸呈周咢哶唐啓啣善善喙喫喳嗂圖嘆圗噑噴切壮城埴堍型"),
  (0x2F856, "堲報墬𡓤売壷夆多夢奢𡚨𡛪姬娛娧姘婦㛮㛼嬈嬾嬾𡧈寃寘寧寳𡬘寿将当尢㞁屠屮峀岍𡷤嵃𡷦嵮嵫嵼"),
  (0x2F881, "巡巢㠯巽帨帽幩㡢𢆃㡼庰庳庶廊𪎒廾𢌱𢌱舁弢弢㣇𣊸𦇚形彫㣣徚忍志忹悁㤺㤜悔𢛔惇慈慌慎慌慺憎"),
  (0x2F8AC, "憲憤憯懞懲懶成戛扝抱拔捐𢬌挽拼捨掃揤𢯱搢揅掩㨮摩摾撝摷㩬敏敬𣀊旣書晉㬙暑㬈㫤冒冕最暜肭"),
  (0x2F8D7, "䏙朗望朡杞杓𣏃㭉柺枅桒梅𣑭梎栟椔㮝楂榣槪檨𣚣櫛㰘次𣢧歔㱎歲殟殺殻𣪍𡴋𣫺汎𣲼沿泍汧洖派海"),
  (0x2F902, "流浩浸涅𣴞洴港湮㴳滋滇𣻑淹潮𣽞𣾎濆瀹瀞瀛㶖灊災灷炭𠔥煅𤉣熜𤎫爨爵牐𤘈犀犕𤜵𤠔獺王㺬玥㺸"),
  (0x2F92D, "㺸瑇瑜瑱璅瓊㼛甤𤰶甾𤲒異𢆟瘐𤾡𤾸𥁄㿼䀈直𥃳𥃲𥄙𥄳眞真真睊䀹瞋䁆䂖𥐝硎碌磌䃣𥘦祖𥚚𥛅福秫"),
  (0x2F958, "䄯穀穊穏𥥼𥪧𥪧竮䈂𥮫篆築䈧𥲀糒䊠糨糣紀𥾆絣䌁緇縂繅䌴𦈨𦉇䍙𦋙罺𦌾羕翺者𦓚𦔣聠𦖨聰𣍟䏕育"),
  (0x2F983, "脃䐋脾媵𦞧𦞵𣎓𣎜舁舄辞䑫芑芋芝劳花芳芽苦𦬼若茝荣莭茣莽菧著荓菊菌菜𦰶𦵫𦳕䔫蓱蓳蔖𧏊蕤𦼬"),
  (0x2F9AE, "䕝䕡𦾱𧃒䕫虐虜虧虩蚩蚈蜎蛢蝹蜨蝫螆䗗蟡蠁䗹衠衣𧙧裗裞䘵裺㒻𧢮𧥦䚾䛇誠諭變豕𧲨貫賁贛起𧼯"),
  (0x2F9D9, "𠠄跋趼跰𠣞軔輸𨗒𨗭邔郱鄑𨜮鄛鈸鋗鋘鉼鏹鐕𨯺開䦕閷𨵷䧦雃嶲霣𩅅𩈚䩮䩶韠𩐊䪲𩒖頋頋頩𩖶飢䬳"),
  (0x2FA04, "餩馧駂駾䯎𩬰鬒鱀鳽䳎䳭鵧𪃎䳸𪄅𪈎𪊑麻䵖黹黾鼅鼏鼖鼻𪘀")]

/-- Characters that mean one other character. -/
def meanings : List (Nat × String) := [
  (0x00A0, " "), (0x00AA, "a"), (0x00B2, "23"), (0x00B5, "μ"), (0x00B9, "1o"), (0x017F, "s"),
  (0x02B0, "hɦjrɹɻʁwy"), (0x02E0, "ɣlsxʕ"), (0x03D0, "βθΥ"), (0x03D5, "φπ"), (0x03F0, "κρς"), (0x03F4, "Θε"),
  (0x03F9, "Σ"), (0x0F0C, "་"), (0x10FC, "ნ"), (0x1D2C, "AÆB"), (0x1D30, "DEƎGHIJKLMN"),
  (0x1D3C, "OȢPRTUWaɐɑᴂbdeəɛɜg"), (0x1D4F, "kmŋoɔᴖᴗptuᴝɯvᴥβγδφχiruvβγρφχ"), (0x1D78, "н"),
  (0x1D9B, "ɒcɕðɜfɟɡɥɨɩɪᵻʝɭᶅʟɱɰɲɳɴɵɸʂʃƫʉʊᴜʋʌzʐʑʒθ"), (0x2002, "         "), (0x2011, "‐"), (0x2024, "."),
  (0x202F, " "), (0x205F, " "), (0x2070, "0i"), (0x2074, "456789+−=()n0123456789+−=()"),
  (0x2090, "aeoxəhklmnpst"), (0x2102, "C"), (0x2107, "Ɛ"), (0x210A, "gHHHhħIILl"), (0x2115, "N"),
  (0x2119, "PQRRR"), (0x2124, "Z"), (0x2128, "Z"), (0x212C, "BC"), (0x212F, "eEF"),
  (0x2133, "Mo\u05d0\u05d1\u05d2\u05d3i"), (0x213C, "πγΓΠ∑"), (0x2145, "Ddeij"), (0x2160, "I"), (0x2164, "V"),
  (0x2169, "X"), (0x216C, "LCDMi"), (0x2174, "v"), (0x2179, "x"), (0x217C, "lcdm"), (0x2460, "123456789"),
  (0x24B6, "ABCDEFGHIJKLMNOPQRSTUVWXYZabcdefghijklmnopqrstuvwxyz0"), (0x2C7C, "jV"), (0x2D6F, "ⵡ"),
  (0x2E9F, "母"), (0x2EF3, "龟"),
  (0x2F00, "一丨丶丿乙亅二亠人儿入八冂冖冫几凵刀力勹匕匚匸十卜卩厂厶又口囗土士夂夊夕大女子宀寸小尢"),
  (0x2F2B, "尸屮山巛工己巾干幺广廴廾弋弓彐彡彳心戈戶手支攴文斗斤方无日曰月木欠止歹殳毋比毛氏气水火"),
  (0x2F56, "爪父爻爿片牙牛犬玄玉瓜瓦甘生用田疋疒癶白皮皿目矛矢石示禸禾穴立竹米糸缶网羊羽老而耒耳聿"),
  (0x2F81, "肉臣自至臼舌舛舟艮色艸虍虫血行衣襾見角言谷豆豕豸貝赤走足身車辛辰辵邑酉釆里金長門阜隶隹"),
  (0x2FAC, "雨靑非面革韋韭音頁風飛食首香馬骨高髟鬥鬯鬲鬼魚鳥鹵鹿麥麻黃黍黑黹黽鼎鼓鼠鼻齊齒龍龜龠"),
  (0x3000, " "), (0x3036, "〒"), (0x3038, "十卄卅"),
  (0x3131, "ᄀᄁᆪᄂᆬᆭᄃᄄᄅᆰᆱᆲᆳᆴᆵᄚᄆᄇᄈᄡᄉᄊᄋᄌᄍᄎᄏᄐᄑ하ᅢᅣᅤᅥᅦᅧᅨᅩᅪᅫᅬᅭᅮᅯᅰᅱᅲᅳᅴᅵᅠᄔᄕᇇᇈᇌᇎᇓᇗᇙᄜ"),
  (0x316F, "ᇝᇟᄝᄞᄠᄢᄣᄧᄩᄫᄬᄭᄮᄯᄲᄶᅀᅇᅌᇱᇲᅗᅘᅙᆄᆅᆈᆑᆒᆔᆞᆡ"), (0x3192, "一二三四上中下甲乙丙丁天地人"),
  (0x3244, "問幼文箏"), (0x3260, "ᄀᄂᄃᄅᄆᄇᄉᄋᄌᄎᄏᄐᄑᄒ"),
  (0x3280, "一二三四五六七八九十月火水木金土日株有社名特財祝労秘男女適優印注項休写正上中下左右医宗"),
  (0x32AB, "学監企資協夜"),
  (0x32D0, "アイウエオカキクケコサシスセソタチツテトナニヌネノハヒフヘホマミムメモヤユヨラリルレロ"),
  (0x32FB, "ワヰヱヲ"), (0xA69C, "ъь"), (0xA770, "ꝯ"), (0xA7F2, "CFQ"), (0xA7F8, "Ħœ"), (0xAB5C, "ꜧꬷɫꭒ"),
  (0xAB69, "ʍ"), (0xFB20, "\u05e2\u05d0\u05d3\u05d4\u05db\u05dc\u05dd\u05e8\u05ea+"),
  (0xFB50, "\u0671\u0671\u067b\u067b\u067b\u067b\u067e\u067e\u067e\u067e\u0680\u0680\u0680\u0680"),
  (0xFB5E, "\u067a\u067a\u067a\u067a\u067f\u067f\u067f\u067f\u0679\u0679\u0679\u0679\u06a4\u06a4"),
  (0xFB6C, "\u06a4\u06a4\u06a6\u06a6\u06a6\u06a6\u0684\u0684\u0684\u0684\u0683\u0683\u0683\u0683"),
  (0xFB7A, "\u0686\u0686\u0686\u0686\u0687\u0687\u0687\u0687\u068d\u068d\u068c\u068c\u068e\u068e"),
  (0xFB88, "\u0688\u0688\u0698\u0698\u0691\u0691\u06a9\u06a9\u06a9\u06a9\u06af\u06af\u06af\u06af"),
  (0xFB96, "\u06b3\u06b3\u06b3\u06b3\u06b1\u06b1\u06b1\u06b1\u06ba\u06ba\u06bb\u06bb\u06bb\u06bb"),
  (0xFBA4, "\u06c0\u06c0\u06c1\u06c1\u06c1\u06c1\u06be\u06be\u06be\u06be\u06d2\u06d2\u06d3\u06d3"),
  (0xFBD3, "\u06ad\u06ad\u06ad\u06ad\u06c7\u06c7\u06c6\u06c6\u06c8\u06c8\u0677\u06cb\u06cb\u06c5"),
  (0xFBE1, "\u06c5\u06c9\u06c9\u06d0\u06d0\u06d0\u06d0\u0649\u0649"), (0xFBFC, "\u06cc\u06cc\u06cc\u06cc"),
  (0xFE10, ",、。:;!?〖〗…"), (0xFE30, "‥—–__()\x7b\x7d〔〕【】《》〈〉「」『』"), (0xFE47, "[]‾‾‾‾___,、."),
  (0xFE54, ";:?!—()\x7b\x7d〔〕#&*+-<>="), (0xFE68, "\\$%@"),
  (0xFE80, "\u0621\u0622\u0622\u0623\u0623\u0624\u0624\u0625\u0625\u0626\u0626\u0626\u0626\u0627"),
  (0xFE8E, "\u0627\u0628\u0628\u0628\u0628\u0629\u0629\u062a\u062a\u062a\u062a\u062b\u062b\u062b"),
  (0xFE9C, "\u062b\u062c\u062c\u062c\u062c\u062d\u062d\u062d\u062d\u062e\u062e\u062e\u062e\u062f"),
  (0xFEAA, "\u062f\u0630\u0630\u0631\u0631\u0632\u0632\u0633\u0633\u0633\u0633\u0634\u0634\u0634"),
  (0xFEB8, "\u0634\u0635\u0635\u0635\u0635\u0636\u0636\u0636\u0636\u0637\u0637\u0637\u0637\u0638"),
  (0xFEC6, "\u0638\u0638\u0638\u0639\u0639\u0639\u0639\u063a\u063a\u063a\u063a\u0641\u0641\u0641"),
  (0xFED4, "\u0641\u0642\u0642\u0642\u0642\u0643\u0643\u0643\u0643\u0644\u0644\u0644\u0644\u0645"),
  (0xFEE2, "\u0645\u0645\u0645\u0646\u0646\u0646\u0646\u0647\u0647\u0647\u0647\u0648\u0648\u0649"),
  (0xFEF0, "\u0649\u064a\u064a\u064a\u064a"),
  (0xFF01, "!\"#$%&'()*+,-./0123456789:;<=>?@ABCDEFGHIJKLMNOPQRSTUVWXYZ[\\]^_\x60abcdefghijklmnopq"),
  (0xFF52, "rstuvwxyz\x7b|\x7d~⦅⦆。「」、・ヲァィゥェォャュョッーアイウエオカキクケコサシスセソタ"),
  (0xFF81, "チツテトナニヌネノハヒフヘホマミムメモヤユヨラリルレロワン\u3099\u309aㅤㄱㄲㄳㄴㄵㄶㄷ"),
  (0xFFA8, "ㄸㄹㄺㄻㄼㄽㄾㄿㅀㅁㅂㅃㅄㅅㅆㅇㅈㅉㅊㅋㅌㅍㅎ"), (0xFFC2, "ㅏㅐㅑㅒㅓㅔ"),
  (0xFFCA, "ㅕㅖㅗㅘㅙㅚ"), (0xFFD2, "ㅛㅜㅝㅞㅟㅠ"), (0xFFDA, "ㅡㅢㅣ"), (0xFFE0, "¢£¬¯¦¥₩"),
  (0xFFE8, "│←↑→↓■○"), (0x10781, "ːˑæʙɓ"), (0x10787, "ʣꭦʥʤɖɗᶑɘɞʩɤɢɠʛħʜɧʄʪʫɬ𝼄ꞎɮ𝼅ʎ𝼆øɶɷqɺ𝼈ɽɾʀʨʦꭧʧʈⱱ"),
  (0x107B2, "ʏʡʢʘǀǁǂ𝼊𝼞"),
  (0x1D400, "ABCDEFGHIJKLMNOPQRSTUVWXYZabcdefghijklmnopqrstuvwxyzABCDEFGHIJKLMNOPQRSTUVWXYZabcdefg"),
  (0x1D456, "ijklmnopqrstuvwxyzABCDEFGHIJKLMNOPQRSTUVWXYZabcdefghijklmnopqrstuvwxyzA"), (0x1D49E, "CD"),
  (0x1D4A2, "G"), (0x1D4A5, "JK"), (0x1D4A9, "NOPQ"), (0x1D4AE, "STUVWXYZabcd"), (0x1D4BB, "f"),
  (0x1D4BD, "hijklmn"), (0x1D4C5, "pqrstuvwxyzABCDEFGHIJKLMNOPQRSTUVWXYZabcdefghijklmnopqrstuvwxyzAB"),
  (0x1D507, "DEFG"), (0x1D50D, "JKLMNOPQ"), (0x1D516, "STUVWXY"), (0x1D51E, "abcdefghijklmnopqrstuvwxyzAB"),
  (0x1D53B, "DEFG"), (0x1D540, "IJKLM"), (0x1D546, "O"), (0x1D54A, "STUVWXY"),
  (0x1D552, "abcdefghijklmnopqrstuvwxyzABCDEFGHIJKLMNOPQRSTUVWXYZabcdefghijklmnopqrstuvwxyzABCDEFGH"),
  (0x1D5A8, "IJKLMNOPQRSTUVWXYZabcdefghijklmnopqrstuvwxyzABCDEFGHIJKLMNOPQRSTUVWXYZabcdefghijklmnop"),
  (0x1D5FE, "qrstuvwxyzABCDEFGHIJKLMNOPQRSTUVWXYZabcdefghijklmnopqrstuvwxyzABCDEFGHIJKLMNOPQRSTUVWX"),
  (0x1D654, "YZabcdefghijklmnopqrstuvwxyzABCDEFGHIJKLMNOPQRSTUVWXYZabcdefghijklmnopqrstuvwxyzıȷ"),
  (0x1D6A8, "ΑΒΓΔΕΖΗΘΙΚΛΜΝΞΟΠΡϴΣΤΥΦΧΨΩ∇αβγδεζηθικλμνξοπρςστυφχψω∂ϵϑϰϕϱϖΑΒΓΔΕΖΗΘΙΚΛΜΝΞΟΠΡϴΣΤΥΦΧΨΩ∇αβ"),
  (0x1D6FE, "γδεζηθικλμνξοπρςστυφχψω∂ϵϑϰϕϱϖΑΒΓΔΕΖΗΘΙΚΛΜΝΞΟΠΡϴΣΤΥΦΧΨΩ∇αβγδεζηθικλμνξοπρςστυφχψω∂ϵϑϰϕ"),
  (0x1D754, "ϱϖΑΒΓΔΕΖΗΘΙΚΛΜΝΞΟΠΡϴΣΤΥΦΧΨΩ∇αβγδεζηθικλμνξοπρςστυφχψω∂ϵϑϰϕϱϖΑΒΓΔΕΖΗΘΙΚΛΜΝΞΟΠΡϴΣΤΥΦΧΨΩ∇"),
  (0x1D7AA, "αβγδεζηθικλμνξοπρςστυφχψω∂ϵϑϰϕϱϖϜϝ"),
  (0x1D7CE, "01234567890123456789012345678901234567890123456789"), (0x1EE00, "\u0627\u0628\u062c\u062f"),
  (0x1EE05, "\u0648\u0632\u062d\u0637\u064a\u0643\u0644\u0645\u0646\u0633\u0639\u0641\u0635\u0642"),
  (0x1EE13, "\u0631\u0634\u062a\u062b\u062e\u0630\u0636\u0638\u063a\u066e\u06ba\u06a1\u066f"),
  (0x1EE21, "\u0628\u062c"), (0x1EE24, "\u0647"), (0x1EE27, "\u062d"),
  (0x1EE29, "\u064a\u0643\u0644\u0645\u0646\u0633\u0639\u0641\u0635\u0642"),
  (0x1EE34, "\u0634\u062a\u062b\u062e"), (0x1EE39, "\u0636"), (0x1EE3B, "\u063a"), (0x1EE42, "\u062c"),
  (0x1EE47, "\u062d"), (0x1EE49, "\u064a"), (0x1EE4B, "\u0644"), (0x1EE4D, "\u0646\u0633\u0639"),
  (0x1EE51, "\u0635\u0642"), (0x1EE54, "\u0634"), (0x1EE57, "\u062e"), (0x1EE59, "\u0636"),
  (0x1EE5B, "\u063a"), (0x1EE5D, "\u06ba"), (0x1EE5F, "\u066f"), (0x1EE61, "\u0628\u062c"),
  (0x1EE64, "\u0647"), (0x1EE67, "\u062d\u0637\u064a\u0643"),
  (0x1EE6C, "\u0645\u0646\u0633\u0639\u0641\u0635\u0642"), (0x1EE74, "\u0634\u062a\u062b\u062e"),
  (0x1EE79, "\u0636\u0638\u063a\u066e"), (0x1EE7E, "\u06a1"),
  (0x1EE80, "\u0627\u0628\u062c\u062f\u0647\u0648\u0632\u062d\u0637\u064a"),
  (0x1EE8B, "\u0644\u0645\u0646\u0633\u0639\u0641\u0635\u0642\u0631\u0634\u062a\u062b\u062e\u0630"),
  (0x1EE99, "\u0636\u0638\u063a"), (0x1EEA1, "\u0628\u062c\u062f"),
  (0x1EEA5, "\u0648\u0632\u062d\u0637\u064a"),
  (0x1EEAB, "\u0644\u0645\u0646\u0633\u0639\u0641\u0635\u0642\u0631\u0634\u062a\u062b\u062e\u0630"),
  (0x1EEB9, "\u0636\u0638\u063a"), (0x1F12B, "CR"), (0x1F130, "ABCDEFGHIJKLMNOPQRSTUVWXYZ"), (0x1F202, "サ"),
  (0x1F210, "手字双デ二多解天交映無料前後再新初終生販声吹演投捕一三遊左中右指走打禁空合満有月申割営"),
  (0x1F23B, "配"), (0x1F250, "得可"), (0x1FBF0, "0123456789")]

/-- Characters that mean several others. -/
def phrases : List (Nat × List String) := [
  (0x00A8, [" \u0308"]), (0x00AF, [" \u0304"]), (0x00B4, [" \u0301"]), (0x00B8, [" \u0327"]),
  (0x00BC, ["1⁄4", "1⁄2", "3⁄4"]), (0x0132, ["IJ", "ij"]), (0x013F, ["L·", "l·"]), (0x0149, ["ʼn"]),
  (0x01C4, ["DŽ", "Dž", "dž", "LJ", "Lj", "lj", "NJ", "Nj", "nj"]), (0x01F1, ["DZ", "Dz", "dz"]),
  (0x02D8, [" \u0306", " \u0307", " \u030a", " \u0328", " \u0303", " \u030b"]), (0x037A, [" \u0345"]),
  (0x0384, [" \u0301"]), (0x0587, ["եւ"]),
  (0x0675, ["\u0627\u0674", "\u0648\u0674", "\u06c7\u0674", "\u064a\u0674"]), (0x0E33, ["\u0e4dา"]),
  (0x0EB3, ["\u0ecdາ"]), (0x0EDC, ["ຫນ", "ຫມ"]), (0x0F77, ["\u0fb2\u0f81"]), (0x0F79, ["\u0fb3\u0f81"]),
  (0x1E9A, ["aʾ"]), (0x1FBD, [" \u0313"]), (0x1FBF, [" \u0313", " \u0342"]), (0x1FFE, [" \u0314"]),
  (0x2017, [" \u0333"]), (0x2025, ["..", "..."]), (0x2033, ["′′", "′′′"]), (0x2036, ["‵‵", "‵‵‵"]),
  (0x203C, ["!!"]), (0x203E, [" \u0305"]), (0x2047, ["??", "?!", "!?"]), (0x2057, ["′′′′"]), (0x20A8, ["Rs"]),
  (0x2100, ["a/c", "a/s"]), (0x2103, ["°C"]), (0x2105, ["c/o", "c/u"]), (0x2109, ["°F"]), (0x2116, ["No"]),
  (0x2120, ["SM", "TEL", "TM"]), (0x213B, ["FAX"]),
  (0x2150, ["1⁄7", "1⁄9", "1⁄10", "1⁄3", "2⁄3", "1⁄5", "2⁄5", "3⁄5", "4⁄5", "1⁄6", "5⁄6", "1⁄8", "3⁄8"]),
  (0x215D, ["5⁄8", "7⁄8", "1⁄"]), (0x2161, ["II", "III", "IV"]), (0x2165, ["VI", "VII", "VIII", "IX"]),
  (0x216A, ["XI", "XII"]), (0x2171, ["ii", "iii", "iv"]), (0x2175, ["vi", "vii", "viii", "ix"]),
  (0x217A, ["xi", "xii"]), (0x2189, ["0⁄3"]), (0x222C, ["∫∫", "∫∫∫"]), (0x222F, ["∮∮", "∮∮∮"]),
  (0x2469, ["10", "11", "12", "13", "14", "15", "16", "17", "18", "19", "20", "(1)", "(2)", "(3)"]),
  (0x2477, ["(4)", "(5)", "(6)", "(7)", "(8)", "(9)", "(10)", "(11)", "(12)", "(13)", "(14)", "(15)"]),
  (0x2483, ["(16)", "(17)", "(18)", "(19)", "(20)", "1.", "2.", "3.", "4.", "5.", "6.", "7.", "8."]),
  (0x2490, ["9.", "10.", "11.", "12.", "13.", "14.", "15.", "16.", "17.", "18.", "19.", "20.", "(a)"]),
  (0x249D, ["(b)", "(c)", "(d)", "(e)", "(f)", "(g)", "(h)", "(i)", "(j)", "(k)", "(l)", "(m)", "(n)"]),
  (0x24AA, ["(o)", "(p)", "(q)", "(r)", "(s)", "(t)", "(u)", "(v)", "(w)", "(x)", "(y)", "(z)"]),
  (0x2A0C, ["∫∫∫∫"]), (0x2A74, ["::=", "==", "==="]), (0x309B, [" \u3099", " \u309a"]), (0x309F, ["より"]),
  (0x30FF, ["コト"]),
  (0x3200, ["(ᄀ)", "(ᄂ)", "(ᄃ)", "(ᄅ)", "(ᄆ)", "(ᄇ)", "(ᄉ)", "(ᄋ)", "(ᄌ)", "(ᄎ)", "(ᄏ)"]),
  (0x320B, ["(ᄐ)", "(ᄑ)", "(ᄒ)", "(가)", "(나)", "(다)", "(라)", "(마)", "(바)", "(사)"]),
  (0x3215, ["(아)", "(자)", "(차)", "(카)", "(타)", "(파)", "(하)", "(주)", "(오전)"]),
  (0x321E, ["(오후)"]),
  (0x3220, ["(一)", "(二)", "(三)", "(四)", "(五)", "(六)", "(七)", "(八)", "(九)", "(十)", "(月)"]),
  (0x322B, ["(火)", "(水)", "(木)", "(金)", "(土)", "(日)", "(株)", "(有)", "(社)", "(名)", "(特)"]),
  (0x3236, ["(財)", "(祝)", "(労)", "(代)", "(呼)", "(学)", "(監)", "(企)", "(資)", "(協)", "(祭)"]),
  (0x3241, ["(休)", "(自)", "(至)"]),
  (0x3250, ["PTE", "21", "22", "23", "24", "25", "26", "27", "28", "29", "30", "31", "32", "33", "34"]),
  (0x325F, ["35"]),
  (0x326E, ["가", "나", "다", "라", "마", "바", "사", "아", "자", "차", "카", "타", "파"]),
  (0x327B, ["하", "참고", "주의", "우"]),
  (0x32B1, ["36", "37", "38", "39", "40", "41", "42", "43", "44", "45", "46", "47", "48", "49", "50"]),
  (0x32C0, ["1月", "2月", "3月", "4月", "5月", "6月", "7月", "8月", "9月", "10月", "11月", "12月"]),
  (0x32CC, ["Hg", "erg", "eV", "LTD"]),
  (0x32FF, ["令和", "アパート", "アルファ", "アンペア", "アール", "イニング", "インチ", "ウォン"]),
  (0x3307, ["エスクード", "エーカー", "オンス", "オーム", "カイリ", "カラット", "カロリー", "ガロン"]),
  (0x330F, ["ガンマ", "ギガ", "ギニー", "キュリー", "ギルダー", "キロ", "キログラム", "キロメートル"]),
  (0x3317, ["キロワット", "グラム", "グラムトン", "クルゼイロ", "クローネ", "ケース", "コルナ"]),
  (0x331E, ["コーポ", "サイクル", "サンチーム", "シリング", "センチ", "セント", "ダース", "デシ"]),
  (0x3326, ["ドル", "トン", "ナノ", "ノット", "ハイツ", "パーセント", "パーツ", "バーレル"]),
  (0x332E, ["ピアストル", "ピクル", "ピコ", "ビル", "ファラッド", "フィート", "ブッシェル", "フラン"]),
  (0x3336, ["ヘクタール", "ペソ", "ペニヒ", "ヘルツ", "ペンス", "ページ", "ベータ", "ポイント"]),
  (0x333E, ["ボルト", "ホン", "ポンド", "ホール", "ホーン", "マイクロ", "マイル", "マッハ", "マルク"]),
  (0x3347, ["マンション", "ミクロン", "ミリ", "ミリバール", "メガ", "メガトン", "メートル", "ヤード"]),
  (0x334F, ["ヤール", "ユアン", "リットル", "リラ", "ルピー", "ルーブル", "レム", "レントゲン"]),
  (0x3357, ["ワット", "0点", "1点", "2点", "3点", "4点", "5点", "6点", "7点", "8点", "9点", "10点"]),
  (0x3363, ["11点", "12点", "13点", "14点", "15点", "16点", "17点", "18点", "19点", "20点", "21点"]),
  (0x336E, ["22点", "23点", "24点", "hPa", "da", "AU", "bar", "oV", "pc", "dm", "dm²", "dm³", "IU"]),
  (0x337B, ["平成", "昭和", "大正", "明治", "株式会社", "pA", "nA", "μA", "mA", "kA", "KB", "MB", "GB"]),
  (0x3388, ["cal", "kcal", "pF", "nF", "μF", "μg", "mg", "kg", "Hz", "kHz", "MHz", "GHz", "THz", "μℓ"]),
  (0x3396, ["mℓ", "dℓ", "kℓ", "fm", "nm", "μm", "mm", "cm", "km", "mm²", "cm²", "m²", "km²", "mm³"]),
  (0x33A4, ["cm³", "m³", "km³", "m∕s", "m∕s²", "Pa", "kPa", "MPa", "GPa", "rad", "rad∕s", "rad∕s²"]),
  (0x33B0, ["ps", "ns", "μs", "ms", "pV", "nV", "μV", "mV", "kV", "MV", "pW", "nW", "μW", "mW", "kW"]),
  (0x33BF, ["MW", "kΩ", "MΩ", "a.m.", "Bq", "cc", "cd", "C∕kg", "Co.", "dB", "Gy", "ha", "HP", "in"]),
  (0x33CD, ["KK", "KM", "kt", "lm", "ln", "log", "lx", "mb", "mil", "mol", "PH", "p.m.", "PPM", "PR"]),
  (0x33DB, ["sr", "Sv", "Wb", "V∕m", "A∕m", "1日", "2日", "3日", "4日", "5日", "6日", "7日", "8日"]),
  (0x33E8, ["9日", "10日", "11日", "12日", "13日", "14日", "15日", "16日", "17日", "18日", "19日"]),
  (0x33F3, ["20日", "21日", "22日", "23日", "24日", "25日", "26日", "27日", "28日", "29日", "30日"]),
  (0x33FE, ["31日", "gal"]), (0xFB00, ["ff", "fi", "fl", "ffi", "ffl", "ſt", "st"]),
  (0xFB13, ["մն", "մե", "մի", "վն", "մխ"]), (0xFB4F, ["\u05d0\u05dc"]),
  (0xFBEA, ["\u0626\u0627", "\u0626\u0627", "\u0626\u06d5", "\u0626\u06d5", "\u0626\u0648"]),
  (0xFBEF, ["\u0626\u0648", "\u0626\u06c7", "\u0626\u06c7", "\u0626\u06c6", "\u0626\u06c6"]),
  (0xFBF4, ["\u0626\u06c8", "\u0626\u06c8", "\u0626\u06d0", "\u0626\u06d0", "\u0626\u06d0"]),
  (0xFBF9, ["\u0626\u0649", "\u0626\u0649", "\u0626\u0649"]),
  (0xFC00, ["\u0626\u062c", "\u0626\u062d", "\u0626\u0645", "\u0626\u0649", "\u0626\u064a"]),
  (0xFC05, ["\u0628\u062c", "\u0628\u062d", "\u0628\u062e", "\u0628\u0645", "\u0628\u0649"]),
  (0xFC0A, ["\u0628\u064a", "\u062a\u062c", "\u062a\u062d", "\u062a\u062e", "\u062a\u0645"]),
  (0xFC0F, ["\u062a\u0649", "\u062a\u064a", "\u062b\u062c", "\u062b\u0645", "\u062b\u0649"]),
  (0xFC14, ["\u062b\u064a", "\u062c\u062d", "\u062c\u0645", "\u062d\u062c", "\u062d\u0645"]),
  (0xFC19, ["\u062e\u062c", "\u062e\u062d", "\u062e\u0645", "\u0633\u062c", "\u0633\u062d"]),
  (0xFC1E, ["\u0633\u062e", "\u0633\u0645", "\u0635\u062d", "\u0635\u0645", "\u0636\u062c"]),
  (0xFC23, ["\u0636\u062d", "\u0636\u062e", "\u0636\u0645", "\u0637\u062d", "\u0637\u0645"]),
  (0xFC28, ["\u0638\u0645", "\u0639\u062c", "\u0639\u0645", "\u063a\u062c", "\u063a\u0645"]),
  (0xFC2D, ["\u0641\u062c", "\u0641\u062d", "\u0641\u062e", "\u0641\u0645", "\u0641\u0649"]),
  (0xFC32, ["\u0641\u064a", "\u0642\u062d", "\u0642\u0645", "\u0642\u0649", "\u0642\u064a"]),
  (0xFC37, ["\u0643\u0627", "\u0643\u062c", "\u0643\u062d", "\u0643\u062e", "\u0643\u0644"]),
  (0xFC3C, ["\u0643\u0645", "\u0643\u0649", "\u0643\u064a", "\u0644\u062c", "\u0644\u062d"]),
  (0xFC41, ["\u0644\u062e", "\u0644\u0645", "\u0644\u0649", "\u0644\u064a", "\u0645\u062c"]),
  (0xFC46, ["\u0645\u062d", "\u0645\u062e", "\u0645\u0645", "\u0645\u0649", "\u0645\u064a"]),
  (0xFC4B, ["\u0646\u062c", "\u0646\u062d", "\u0646\u062e", "\u0646\u0645", "\u0646\u0649"]),
  (0xFC50, ["\u0646\u064a", "\u0647\u062c", "\u0647\u0645", "\u0647\u0649", "\u0647\u064a"]),
  (0xFC55, ["\u064a\u062c", "\u064a\u062d", "\u064a\u062e", "\u064a\u0645", "\u064a\u0649"]),
  (0xFC5A, ["\u064a\u064a", "\u0630\u0670", "\u0631\u0670", "\u0649\u0670", " \u064c\u0651"]),
  (0xFC5F, [" \u064d\u0651", " \u064e\u0651", " \u064f\u0651", " \u0650\u0651", " \u0651\u0670"]),
  (0xFC64, ["\u0626\u0631", "\u0626\u0632", "\u0626\u0645", "\u0626\u0646", "\u0626\u0649"]),
  (0xFC69, ["\u0626\u064a", "\u0628\u0631", "\u0628\u0632", "\u0628\u0645", "\u0628\u0646"]),
  (0xFC6E, ["\u0628\u0649", "\u0628\u064a", "\u062a\u0631", "\u062a\u0632", "\u062a\u0645"]),
  (0xFC73, ["\u062a\u0646", "\u062a\u0649", "\u062a\u064a", "\u062b\u0631", "\u062b\u0632"]),
  (0xFC78, ["\u062b\u0645", "\u062b\u0646", "\u062b\u0649", "\u062b\u064a", "\u0641\u0649"]),
  (0xFC7D, ["\u0641\u064a", "\u0642\u0649", "\u0642\u064a", "\u0643\u0627", "\u0643\u0644"]),
  (0xFC82, ["\u0643\u0645", "\u0643\u0649", "\u0643\u064a", "\u0644\u0645", "\u0644\u0649"]),
  (0xFC87, ["\u0644\u064a", "\u0645\u0627", "\u0645\u0645", "\u0646\u0631", "\u0646\u0632"]),
  (0xFC8C, ["\u0646\u0645", "\u0646\u0646", "\u0646\u0649", "\u0646\u064a", "\u0649\u0670"]),
  (0xFC91, ["\u064a\u0631", "\u064a\u0632", "\u064a\u0645", "\u064a\u0646", "\u064a\u0649"]),
  (0xFC96, ["\u064a\u064a", "\u0626\u062c", "\u0626\u062d", "\u0626\u062e", "\u0626\u0645"]),
  (0xFC9B, ["\u0626\u0647", "\u0628\u062c", "\u0628\u062d", "\u0628\u062e", "\u0628\u0645"]),
  (0xFCA0, ["\u0628\u0647", "\u062a\u062c", "\u062a\u062d", "\u062a\u062e", "\u062a\u0645"]),
  (0xFCA5, ["\u062a\u0647", "\u062b\u0645", "\u062c\u062d", "\u062c\u0645", "\u062d\u062c"]),
  (0xFCAA, ["\u062d\u0645", "\u062e\u062c", "\u062e\u0645", "\u0633\u062c", "\u0633\u062d"]),
  (0xFCAF, ["\u0633\u062e", "\u0633\u0645", "\u0635\u062d", "\u0635\u062e", "\u0635\u0645"]),
  (0xFCB4, ["\u0636\u062c", "\u0636\u062d", "\u0636\u062e", "\u0636\u0645", "\u0637\u062d"]),
  (0xFCB9, ["\u0638\u0645", "\u0639\u062c", "\u0639\u0645", "\u063a\u062c", "\u063a\u0645"]),
  (0xFCBE, ["\u0641\u062c", "\u0641\u062d", "\u0641\u062e", "\u0641\u0645", "\u0642\u062d"]),
  (0xFCC3, ["\u0642\u0645", "\u0643\u062c", "\u0643\u062d", "\u0643\u062e", "\u0643\u0644"]),
  (0xFCC8, ["\u0643\u0645", "\u0644\u062c", "\u0644\u062d", "\u0644\u062e", "\u0644\u0645"]),
  (0xFCCD, ["\u0644\u0647", "\u0645\u062c", "\u0645\u062d", "\u0645\u062e", "\u0645\u0645"]),
  (0xFCD2, ["\u0646\u062c", "\u0646\u062d", "\u0646\u062e", "\u0646\u0645", "\u0646\u0647"]),
  (0xFCD7, ["\u0647\u062c", "\u0647\u0645", "\u0647\u0670", "\u064a\u062c", "\u064a\u062d"]),
  (0xFCDC, ["\u064a\u062e", "\u064a\u0645", "\u064a\u0647", "\u0626\u0645", "\u0626\u0647"]),
  (0xFCE1, ["\u0628\u0645", "\u0628\u0647", "\u062a\u0645", "\u062a\u0647", "\u062b\u0645"]),
  (0xFCE6, ["\u062b\u0647", "\u0633\u0645", "\u0633\u0647", "\u0634\u0645", "\u0634\u0647"]),
  (0xFCEB, ["\u0643\u0644", "\u0643\u0645", "\u0644\u0645", "\u0646\u0645", "\u0646\u0647"]),
  (0xFCF0, ["\u064a\u0645", "\u064a\u0647", "\u0640\u064e\u0651", "\u0640\u064f\u0651"]),
  (0xFCF4, ["\u0640\u0650\u0651", "\u0637\u0649", "\u0637\u064a", "\u0639\u0649", "\u0639\u064a"]),
  (0xFCF9, ["\u063a\u0649", "\u063a\u064a", "\u0633\u0649", "\u0633\u064a", "\u0634\u0649"]),
  (0xFCFE, ["\u0634\u064a", "\u062d\u0649", "\u062d\u064a", "\u062c\u0649", "\u062c\u064a"]),
  (0xFD03, ["\u062e\u0649", "\u062e\u064a", "\u0635\u0649", "\u0635\u064a", "\u0636\u0649"]),
  (0xFD08, ["\u0636\u064a", "\u0634\u062c", "\u0634\u062d", "\u0634\u062e", "\u0634\u0645"]),
  (0xFD0D, ["\u0634\u0631", "\u0633\u0631", "\u0635\u0631", "\u0636\u0631", "\u0637\u0649"]),
  (0xFD12, ["\u0637\u064a", "\u0639\u0649", "\u0639\u064a", "\u063a\u0649", "\u063a\u064a"]),
  (0xFD17, ["\u0633\u0649", "\u0633\u064a", "\u0634\u0649", "\u0634\u064a", "\u062d\u0649"]),
  (0xFD1C, ["\u062d\u064a", "\u062c\u0649", "\u062c\u064a", "\u062e\u0649", "\u062e\u064a"]),
  (0xFD21, ["\u0635\u0649", "\u0635\u064a", "\u0636\u0649", "\u0636\u064a", "\u0634\u062c"]),
  (0xFD26, ["\u0634\u062d", "\u0634\u062e", "\u0634\u0645", "\u0634\u0631", "\u0633\u0631"]),
  (0xFD2B, ["\u0635\u0631", "\u0636\u0631", "\u0634\u062c", "\u0634\u062d", "\u0634\u062e"]),
  (0xFD30, ["\u0634\u0645", "\u0633\u0647", "\u0634\u0647", "\u0637\u0645", "\u0633\u062c"]),
  (0xFD35, ["\u0633\u062d", "\u0633\u062e", "\u0634\u062c", "\u0634\u062d", "\u0634\u062e"]),
  (0xFD3A, ["\u0637\u0645", "\u0638\u0645", "\u0627\u064b", "\u0627\u064b"]),
  (0xFD50, ["\u062a\u062c\u0645", "\u062a\u062d\u062c", "\u062a\u062d\u062c", "\u062a\u062d\u0645"]),
  (0xFD54, ["\u062a\u062e\u0645", "\u062a\u0645\u062c", "\u062a\u0645\u062d", "\u062a\u0645\u062e"]),
  (0xFD58, ["\u062c\u0645\u062d", "\u062c\u0645\u062d", "\u062d\u0645\u064a", "\u062d\u0645\u0649"]),
  (0xFD5C, ["\u0633\u062d\u062c", "\u0633\u062c\u062d", "\u0633\u062c\u0649", "\u0633\u0645\u062d"]),
  (0xFD60, ["\u0633\u0645\u062d", "\u0633\u0645\u062c", "\u0633\u0645\u0645", "\u0633\u0645\u0645"]),
  (0xFD64, ["\u0635\u062d\u062d", "\u0635\u062d\u062d", "\u0635\u0645\u0645", "\u0634\u062d\u0645"]),
  (0xFD68, ["\u0634\u062d\u0645", "\u0634\u062c\u064a", "\u0634\u0645\u062e", "\u0634\u0645\u062e"]),
  (0xFD6C, ["\u0634\u0645\u0645", "\u0634\u0645\u0645", "\u0636\u062d\u0649", "\u0636\u062e\u0645"]),
  (0xFD70, ["\u0636\u062e\u0645", "\u0637\u0645\u062d", "\u0637\u0645\u062d", "\u0637\u0645\u0645"]),
  (0xFD74, ["\u0637\u0645\u064a", "\u0639\u062c\u0645", "\u0639\u0645\u0645", "\u0639\u0645\u0645"]),
  (0xFD78, ["\u0639\u0645\u0649", "\u063a\u0645\u0645", "\u063a\u0645\u064a", "\u063a\u0645\u0649"]),
  (0xFD7C, ["\u0641\u062e\u0645", "\u0641\u062e\u0645", "\u0642\u0645\u062d", "\u0642\u0645\u0645"]),
  (0xFD80, ["\u0644\u062d\u0645", "\u0644\u062d\u064a", "\u0644\u062d\u0649", "\u0644\u062c\u062c"]),
  (0xFD84, ["\u0644\u062c\u062c", "\u0644\u062e\u0645", "\u0644\u062e\u0645", "\u0644\u0645\u062d"]),
  (0xFD88, ["\u0644\u0645\u062d", "\u0645\u062d\u062c", "\u0645\u062d\u0645", "\u0645\u062d\u064a"]),
  (0xFD8C, ["\u0645\u062c\u062d", "\u0645\u062c\u0645", "\u0645\u062e\u062c", "\u0645\u062e\u0645"]),
  (0xFD92, ["\u0645\u062c\u062e", "\u0647\u0645\u062c", "\u0647\u0645\u0645", "\u0646\u062d\u0645"]),
  (0xFD96, ["\u0646\u062d\u0649", "\u0646\u062c\u0645", "\u0646\u062c\u0645", "\u0646\u062c\u0649"]),
  (0xFD9A, ["\u0646\u0645\u064a", "\u0646\u0645\u0649", "\u064a\u0645\u0645", "\u064a\u0645\u0645"]),
  (0xFD9E, ["\u0628\u062e\u064a", "\u062a\u062c\u064a", "\u062a\u062c\u0649", "\u062a\u062e\u064a"]),
  (0xFDA2, ["\u062a\u062e\u0649", "\u062a\u0645\u064a", "\u062a\u0645\u0649", "\u062c\u0645\u064a"]),
  (0xFDA6, ["\u062c\u062d\u0649", "\u062c\u0645\u0649", "\u0633\u062e\u0649", "\u0635\u062d\u064a"]),
  (0xFDAA, ["\u0634\u062d\u064a", "\u0636\u062d\u064a", "\u0644\u062c\u064a", "\u0644\u0645\u064a"]),
  (0xFDAE, ["\u064a\u062d\u064a", "\u064a\u062c\u064a", "\u064a\u0645\u064a", "\u0645\u0645\u064a"]),
  (0xFDB2, ["\u0642\u0645\u064a", "\u0646\u062d\u064a", "\u0642\u0645\u062d", "\u0644\u062d\u0645"]),
  (0xFDB6, ["\u0639\u0645\u064a", "\u0643\u0645\u064a", "\u0646\u062c\u062d", "\u0645\u062e\u064a"]),
  (0xFDBA, ["\u0644\u062c\u0645", "\u0643\u0645\u0645", "\u0644\u062c\u0645", "\u0646\u062c\u062d"]),
  (0xFDBE, ["\u062c\u062d\u064a", "\u062d\u062c\u064a", "\u0645\u062c\u064a", "\u0641\u0645\u064a"]),
  (0xFDC2, ["\u0628\u062d\u064a", "\u0643\u0645\u0645", "\u0639\u062c\u0645", "\u0635\u0645\u0645"]),
  (0xFDC6, ["\u0633\u062e\u064a", "\u0646\u062c\u064a"]),
  (0xFDF0, ["\u0635\u0644\u06d2", "\u0642\u0644\u06d2", "\u0627\u0644\u0644\u0647"]),
  (0xFDF3, ["\u0627\u0643\u0628\u0631", "\u0645\u062d\u0645\u062f", "\u0635\u0644\u0639\u0645"]),
  (0xFDF6, ["\u0631\u0633\u0648\u0644", "\u0639\u0644\u064a\u0647", "\u0648\u0633\u0644\u0645"]),
  (0xFDF9, ["\u0635\u0644\u0649"]),
  (0xFDFA, ["\u0635\u0644\u0649 \u0627\u0644\u0644\u0647 \u0639\u0644\u064a\u0647 \u0648\u0633\u0644\u0645"]),
  (0xFDFB, ["\u062c\u0644 \u062c\u0644\u0627\u0644\u0647", "\u0631\u06cc\u0627\u0644"]),
  (0xFE70, [" \u064b", "\u0640\u064b", " \u064c"]), (0xFE74, [" \u064d"]),
  (0xFE76, [" \u064e", "\u0640\u064e", " \u064f", "\u0640\u064f", " \u0650", "\u0640\u0650", " \u0651"]),
  (0xFE7D, ["\u0640\u0651", " \u0652", "\u0640\u0652"]),
  (0xFEF5, ["\u0644\u0622", "\u0644\u0622", "\u0644\u0623", "\u0644\u0623", "\u0644\u0625"]),
  (0xFEFA, ["\u0644\u0625", "\u0644\u0627", "\u0644\u0627"]),
  (0x1F100, ["0.", "0,", "1,", "2,", "3,", "4,", "5,", "6,", "7,", "8,", "9,"]),
  (0x1F110, ["(A)", "(B)", "(C)", "(D)", "(E)", "(F)", "(G)", "(H)", "(I)", "(J)", "(K)", "(L)", "(M)"]),
  (0x1F11D, ["(N)", "(O)", "(P)", "(Q)", "(R)", "(S)", "(T)", "(U)", "(V)", "(W)", "(X)", "(Y)", "(Z)"]),
  (0x1F12A, ["〔S〕"]), (0x1F12D, ["CD", "WZ"]), (0x1F14A, ["HV", "MV", "SD", "SS", "PPV", "WC"]),
  (0x1F16A, ["MC", "MD", "MR"]), (0x1F190, ["DJ"]), (0x1F200, ["ほか", "ココ"]),
  (0x1F240, ["〔本〕", "〔三〕", "〔二〕", "〔安〕", "〔点〕", "〔打〕", "〔盗〕", "〔勝〕", "〔敗〕"])]

/-- The classes of marks: first and last code point of a run, and the class. -/
def classes : List Nat := [
  768, 788, 230, 789, 789, 232, 790, 793, 220, 794, 794, 232, 795, 795, 216, 796, 800, 220, 801, 802,
  202, 803, 806, 220, 807, 808, 202, 809, 819, 220, 820, 824, 1, 825, 828, 220, 829, 836, 230, 837,
  837, 240, 838, 838, 230, 839, 841, 220, 842, 844, 230, 845, 846, 220, 848, 850, 230, 851, 854, 220,
  855, 855, 230, 856, 856, 232, 857, 858, 220, 859, 859, 230, 860, 860, 233, 861, 862, 234, 863, 863,
  233, 864, 865, 234, 866, 866, 233, 867, 879, 230, 1155, 1159, 230, 1425, 1425, 220, 1426, 1429, 230,
  1430, 1430, 220, 1431, 1433, 230, 1434, 1434, 222, 1435, 1435, 220, 1436, 1441, 230, 1442, 1447, 220,
  1448, 1449, 230, 1450, 1450, 220, 1451, 1452, 230, 1453, 1453, 222, 1454, 1454, 228, 1455, 1455, 230,
  1456, 1456, 10, 1457, 1457, 11, 1458, 1458, 12, 1459, 1459, 13, 1460, 1460, 14, 1461, 1461, 15, 1462,
  1462, 16, 1463, 1463, 17, 1464, 1464, 18, 1465, 1466, 19, 1467, 1467, 20, 1468, 1468, 21, 1469, 1469,
  22, 1471, 1471, 23, 1473, 1473, 24, 1474, 1474, 25, 1476, 1476, 230, 1477, 1477, 220, 1479, 1479, 18,
  1552, 1559, 230, 1560, 1560, 30, 1561, 1561, 31, 1562, 1562, 32, 1611, 1611, 27, 1612, 1612, 28,
  1613, 1613, 29, 1614, 1614, 30, 1615, 1615, 31, 1616, 1616, 32, 1617, 1617, 33, 1618, 1618, 34, 1619,
  1620, 230, 1621, 1622, 220, 1623, 1627, 230, 1628, 1628, 220, 1629, 1630, 230, 1631, 1631, 220, 1648,
  1648, 35, 1750, 1756, 230, 1759, 1762, 230, 1763, 1763, 220, 1764, 1764, 230, 1767, 1768, 230, 1770,
  1770, 220, 1771, 1772, 230, 1773, 1773, 220, 1809, 1809, 36, 1840, 1840, 230, 1841, 1841, 220, 1842,
  1843, 230, 1844, 1844, 220, 1845, 1846, 230, 1847, 1849, 220, 1850, 1850, 230, 1851, 1852, 220, 1853,
  1853, 230, 1854, 1854, 220, 1855, 1857, 230, 1858, 1858, 220, 1859, 1859, 230, 1860, 1860, 220, 1861,
  1861, 230, 1862, 1862, 220, 1863, 1863, 230, 1864, 1864, 220, 1865, 1866, 230, 2027, 2033, 230, 2034,
  2034, 220, 2035, 2035, 230, 2045, 2045, 220, 2070, 2073, 230, 2075, 2083, 230, 2085, 2087, 230, 2089,
  2093, 230, 2137, 2139, 220, 2200, 2200, 230, 2201, 2203, 220, 2204, 2207, 230, 2250, 2254, 230, 2255,
  2259, 220, 2260, 2273, 230, 2275, 2275, 220, 2276, 2277, 230, 2278, 2278, 220, 2279, 2280, 230, 2281,
  2281, 220, 2282, 2284, 230, 2285, 2287, 220, 2288, 2288, 27, 2289, 2289, 28, 2290, 2290, 29, 2291,
  2293, 230, 2294, 2294, 220, 2295, 2296, 230, 2297, 2298, 220, 2299, 2303, 230, 2364, 2364, 7, 2381,
  2381, 9, 2385, 2385, 230, 2386, 2386, 220, 2387, 2388, 230, 2492, 2492, 7, 2509, 2509, 9, 2558, 2558,
  230, 2620, 2620, 7, 2637, 2637, 9, 2748, 2748, 7, 2765, 2765, 9, 2876, 2876, 7, 2893, 2893, 9, 3021,
  3021, 9, 3132, 3132, 7, 3149, 3149, 9, 3157, 3157, 84, 3158, 3158, 91, 3260, 3260, 7, 3277, 3277, 9,
  3387, 3388, 9, 3405, 3405, 9, 3530, 3530, 9, 3640, 3641, 103, 3642, 3642, 9, 3656, 3659, 107, 3768,
  3769, 118, 3770, 3770, 9, 3784, 3787, 122, 3864, 3865, 220, 3893, 3893, 220, 3895, 3895, 220, 3897,
  3897, 216, 3953, 3953, 129, 3954, 3954, 130, 3956, 3956, 132, 3962, 3965, 130, 3968, 3968, 130, 3970,
  3971, 230, 3972, 3972, 9, 3974, 3975, 230, 4038, 4038, 220, 4151, 4151, 7, 4153, 4154, 9, 4237, 4237,
  220, 4957, 4959, 230, 5908, 5909, 9, 5940, 5940, 9, 6098, 6098, 9, 6109, 6109, 230, 6313, 6313, 228,
  6457, 6457, 222, 6458, 6458, 230, 6459, 6459, 220, 6679, 6679, 230, 6680, 6680, 220, 6752, 6752, 9,
  6773, 6780, 230, 6783, 6783, 220, 6832, 6836, 230, 6837, 6842, 220, 6843, 6844, 230, 6845, 6845, 220,
  6847, 6848, 220, 6849, 6850, 230, 6851, 6852, 220, 6853, 6857, 230, 6858, 6858, 220, 6859, 6862, 230,
  6964, 6964, 7, 6980, 6980, 9, 7019, 7019, 230, 7020, 7020, 220, 7021, 7027, 230, 7082, 7083, 9, 7142,
  7142, 7, 7154, 7155, 9, 7223, 7223, 7, 7376, 7378, 230, 7380, 7380, 1, 7381, 7385, 220, 7386, 7387,
  230, 7388, 7391, 220, 7392, 7392, 230, 7394, 7400, 1, 7405, 7405, 220, 7412, 7412, 230, 7416, 7417,
  230, 7616, 7617, 230, 7618, 7618, 220, 7619, 7625, 230, 7626, 7626, 220, 7627, 7628, 230, 7629, 7629,
  234, 7630, 7630, 214, 7631, 7631, 220, 7632, 7632, 202, 7633, 7669, 230, 7670, 7670, 232, 7671, 7672,
  228, 7673, 7673, 220, 7674, 7674, 218, 7675, 7675, 230, 7676, 7676, 233, 7677, 7677, 220, 7678, 7678,
  230, 7679, 7679, 220, 8400, 8401, 230, 8402, 8403, 1, 8404, 8407, 230, 8408, 8410, 1, 8411, 8412,
  230, 8417, 8417, 230, 8421, 8422, 1, 8423, 8423, 230, 8424, 8424, 220, 8425, 8425, 230, 8426, 8427,
  1, 8428, 8431, 220, 8432, 8432, 230, 11503, 11505, 230, 11647, 11647, 9, 11744, 11775, 230, 12330,
  12330, 218, 12331, 12331, 228, 12332, 12332, 232, 12333, 12333, 222, 12334, 12335, 224, 12441, 12442,
  8, 42607, 42607, 230, 42612, 42621, 230, 42654, 42655, 230, 42736, 42737, 230, 43014, 43014, 9,
  43052, 43052, 9, 43204, 43204, 9, 43232, 43249, 230, 43307, 43309, 220, 43347, 43347, 9, 43443,
  43443, 7, 43456, 43456, 9, 43696, 43696, 230, 43698, 43699, 230, 43700, 43700, 220, 43703, 43704,
  230, 43710, 43711, 230, 43713, 43713, 230, 43766, 43766, 9, 44013, 44013, 9, 64286, 64286, 26, 65056,
  65062, 230, 65063, 65069, 220, 65070, 65071, 230, 66045, 66045, 220, 66272, 66272, 220, 66422, 66426,
  230, 68109, 68109, 220, 68111, 68111, 230, 68152, 68152, 230, 68153, 68153, 1, 68154, 68154, 220,
  68159, 68159, 9, 68325, 68325, 230, 68326, 68326, 220, 68900, 68903, 230, 69291, 69292, 230, 69446,
  69447, 220, 69448, 69450, 230, 69451, 69451, 220, 69452, 69452, 230, 69453, 69456, 220, 69506, 69506,
  230, 69507, 69507, 220, 69508, 69508, 230, 69509, 69509, 220, 69702, 69702, 9, 69744, 69744, 9,
  69759, 69759, 9, 69817, 69817, 9, 69818, 69818, 7, 69888, 69890, 230, 69939, 69940, 9, 70003, 70003,
  7, 70080, 70080, 9, 70090, 70090, 7, 70197, 70197, 9, 70198, 70198, 7, 70377, 70377, 7, 70378, 70378,
  9, 70459, 70460, 7, 70477, 70477, 9, 70502, 70508, 230, 70512, 70516, 230, 70722, 70722, 9, 70726,
  70726, 7, 70750, 70750, 230, 70850, 70850, 9, 70851, 70851, 7, 71103, 71103, 9, 71104, 71104, 7,
  71231, 71231, 9, 71350, 71350, 9, 71351, 71351, 7, 71467, 71467, 9, 71737, 71737, 9, 71738, 71738, 7,
  71997, 71998, 9, 72003, 72003, 7, 72160, 72160, 9, 72244, 72244, 9, 72263, 72263, 9, 72345, 72345, 9,
  72767, 72767, 9, 73026, 73026, 7, 73028, 73029, 9, 73111, 73111, 9, 92912, 92916, 1, 92976, 92982,
  230, 94192, 94193, 6, 113822, 113822, 1, 119141, 119142, 216, 119143, 119145, 1, 119149, 119149, 226,
  119150, 119154, 216, 119163, 119170, 220, 119173, 119177, 230, 119178, 119179, 220, 119210, 119213,
  230, 119362, 119364, 230, 122880, 122886, 230, 122888, 122904, 230, 122907, 122913, 230, 122915,
  122916, 230, 122918, 122922, 230, 123184, 123190, 230, 123566, 123566, 230, 123628, 123631, 230,
  125136, 125142, 220, 125252, 125257, 230, 125258, 125258, 7]

end Courier.Text.NormalTables
