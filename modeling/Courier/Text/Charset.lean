import Courier.Text.CharsetTables
import Courier.Text.Escaped
import Courier.Text.Property
import Courier.Text.Punycode
import Courier.Text.Shifted

/-!
Texts in other encodings than UTF-8. An encoding of one byte for a character is Latin-1 with runs of other characters.
Bytes that stand for nothing are read as the replacement character.
-/

namespace Courier.Text

/-- The way in which bytes stand for characters. -/
inductive Charset
  | utf8
  /-- UTF-8 in which a mark at the start is no part of the text. -/
  | utf8Marked
  | utf16 (bigEndian : Bool)
  /-- UTF-16 in the order that a mark at the start tells. -/
  | utf16Marked
  | utf32 (bigEndian : Bool)
  /-- UTF-32 in the order that a mark at the start tells. -/
  | utf32Marked
  | ascii
  /-- One byte for a character: Latin-1 apart from runs of characters, each with the byte of its first one. -/
  | single (runs : List (Nat × String))
  | wide (encoding : Wide)
  | shifted (encoding : Shifted)
  /-- One byte for a character of Latin-1, with escapes for all others; the raw kind has only those of many digits. -/
  | escaped (raw : Bool)
  | punycode
  /-- An encoding with which no bytes can be read as text. -/
  | unreadable (cause : Unreadable)
  deriving DecidableEq, Repr

namespace Charset

/-- The encodings under their plain names, with the other names that each of them goes by. -/
def names : List (String × List String × Charset) := [
  ("ascii", ["646", "ansi_x3.4_1968", "ansi_x3.4_1986", "ansi_x3_4_1968", "cp367", "csascii", "ibm367",
    "iso646_us", "iso_646.irv_1991", "iso_ir_6", "us", "us_ascii"], ascii),
  ("base64_codec", ["base64", "base_64"], unreadable .ofBytes),
  ("big5", ["big5_tw", "csbig5", "x_mac_trad_chinese"], wide .bigFive),
  ("bz2_codec", ["bz2"], unreadable .ofBytes),
  ("charmap", [], single []),
  ("cp037", ["037", "csibm037", "ebcdic_cp_ca", "ebcdic_cp_nl", "ebcdic_cp_us", "ebcdic_cp_wt", "ibm037",
    "ibm039"], single CharsetTables.cp037),
  ("cp1006", [], single CharsetTables.cp1006),
  ("cp1026", ["1026", "csibm1026", "ibm1026"], single CharsetTables.cp1026),
  ("cp1125", ["1125", "cp866u", "ibm1125", "ruscii"], single CharsetTables.cp1125),
  ("cp1140", ["1140", "ibm1140"], single CharsetTables.cp1140),
  ("cp1250", ["1250", "windows_1250"], single CharsetTables.cp1250),
  ("cp1251", ["1251", "windows_1251"], single CharsetTables.cp1251),
  ("cp1252", ["1252", "windows_1252"], single CharsetTables.cp1252),
  ("cp1253", ["1253", "windows_1253"], single CharsetTables.cp1253),
  ("cp1254", ["1254", "windows_1254"], single CharsetTables.cp1254),
  ("cp1255", ["1255", "windows_1255"], single CharsetTables.cp1255),
  ("cp1256", ["1256", "windows_1256"], single CharsetTables.cp1256),
  ("cp1257", ["1257", "windows_1257"], single CharsetTables.cp1257),
  ("cp1258", ["1258", "windows_1258"], single CharsetTables.cp1258),
  ("cp273", ["273", "csibm273", "ibm273"], single CharsetTables.cp273),
  ("cp424", ["424", "csibm424", "ebcdic_cp_he", "ibm424"], single CharsetTables.cp424),
  ("cp437", ["437", "cspc8codepage437", "ibm437"], single CharsetTables.cp437),
  ("cp500", ["500", "csibm500", "ebcdic_cp_be", "ebcdic_cp_ch", "ibm500"], single CharsetTables.cp500),
  ("cp720", [], single CharsetTables.cp720),
  ("cp737", [], single CharsetTables.cp737),
  ("cp775", ["775", "cspc775baltic", "ibm775"], single CharsetTables.cp775),
  ("cp850", ["850", "cspc850multilingual", "ibm850"], single CharsetTables.cp850),
  ("cp852", ["852", "cspcp852", "ibm852"], single CharsetTables.cp852),
  ("cp855", ["855", "csibm855", "ibm855"], single CharsetTables.cp855),
  ("cp856", [], single CharsetTables.cp856),
  ("cp857", ["857", "csibm857", "ibm857"], single CharsetTables.cp857),
  ("cp858", ["858", "csibm858", "ibm858"], single CharsetTables.cp858),
  ("cp860", ["860", "csibm860", "ibm860"], single CharsetTables.cp860),
  ("cp861", ["861", "cp_is", "csibm861", "ibm861"], single CharsetTables.cp861),
  ("cp862", ["862", "cspc862latinhebrew", "ibm862"], single CharsetTables.cp862),
  ("cp863", ["863", "csibm863", "ibm863"], single CharsetTables.cp863),
  ("cp864", ["864", "csibm864", "ibm864"], single CharsetTables.cp864),
  ("cp865", ["865", "csibm865", "ibm865"], single CharsetTables.cp865),
  ("cp866", ["866", "csibm866", "ibm866"], single CharsetTables.cp866),
  ("cp869", ["869", "cp_gr", "csibm869", "ibm869"], single CharsetTables.cp869),
  ("cp874", [], single CharsetTables.cp874),
  ("cp875", [], single CharsetTables.cp875),
  ("cp932", ["932", "ms932", "ms_kanji", "mskanji"], wide .windowsJapanese),
  ("cp949", ["949", "ms949", "uhc"], wide .unifiedHangul),
  ("cp950", ["950", "ms950"], wide .windowsBigFive),
  ("euc_jp", ["eucjp", "u_jis", "ujis"], wide .eucJapanese),
  ("euc_kr", ["euckr", "korean", "ks_c_5601", "ks_c_5601_1987", "ks_x_1001", "ksc5601", "ksx1001",
    "x_mac_korean"], wide .eucKorean),
  ("gb18030", ["gb18030_2000"], wide .gb18030),
  ("gb2312", ["chinese", "csiso58gb231280", "euc_cn", "euccn", "eucgb2312_cn", "gb2312_1980", "gb2312_80",
    "iso_ir_58", "x_mac_simp_chinese"], wide .gb2312),
  ("gbk", ["936", "cp936", "ms936"], wide .gbk),
  ("hex_codec", ["hex"], unreadable .ofBytes),
  ("hp_roman8", ["cp1051", "csHPRoman8", "ibm1051", "r8", "roman8"], single CharsetTables.hpRoman8),
  ("hz", ["hz_gb", "hz_gb_2312", "hzgb"], shifted .hz),
  ("idna", [], unreadable .onlyStrict),
  ("iso2022_jp", ["csiso2022jp", "iso2022jp", "iso_2022_jp"], shifted (.iso2022 .japanese)),
  ("iso2022_jp_1", ["iso2022jp_1", "iso_2022_jp_1"], shifted (.iso2022 .japaneseOne)),
  ("iso2022_jp_ext", ["iso2022jp_ext", "iso_2022_jp_ext"], shifted (.iso2022 .japaneseExtended)),
  ("iso2022_kr", ["csiso2022kr", "iso2022kr", "iso_2022_kr"], shifted (.iso2022 .korean)),
  ("iso8859_1", [], single []),
  ("iso8859_10", ["csisolatin6", "iso_8859_10", "iso_8859_10_1992", "iso_ir_157", "l6", "latin6"], single
    CharsetTables.iso8859Part10),
  ("iso8859_11", ["iso_8859_11", "iso_8859_11_2001", "thai"], single CharsetTables.iso8859Part11),
  ("iso8859_13", ["iso_8859_13", "l7", "latin7"], single CharsetTables.iso8859Part13),
  ("iso8859_14", ["iso_8859_14", "iso_8859_14_1998", "iso_celtic", "iso_ir_199", "l8", "latin8"], single
    CharsetTables.iso8859Part14),
  ("iso8859_15", ["iso_8859_15", "l9", "latin9"], single CharsetTables.iso8859Part15),
  ("iso8859_16", ["iso_8859_16", "iso_8859_16_2001", "iso_ir_226", "l10", "latin10"], single
    CharsetTables.iso8859Part16),
  ("iso8859_2", ["csisolatin2", "iso_8859_2", "iso_8859_2_1987", "iso_ir_101", "l2", "latin2"], single
    CharsetTables.iso8859Part2),
  ("iso8859_3", ["csisolatin3", "iso_8859_3", "iso_8859_3_1988", "iso_ir_109", "l3", "latin3"], single
    CharsetTables.iso8859Part3),
  ("iso8859_4", ["csisolatin4", "iso_8859_4", "iso_8859_4_1988", "iso_ir_110", "l4", "latin4"], single
    CharsetTables.iso8859Part4),
  ("iso8859_5", ["csisolatincyrillic", "cyrillic", "iso_8859_5", "iso_8859_5_1988", "iso_ir_144"], single
    CharsetTables.iso8859Part5),
  ("iso8859_6", ["arabic", "asmo_708", "csisolatinarabic", "ecma_114", "iso_8859_6", "iso_8859_6_1987",
    "iso_ir_127"], single CharsetTables.iso8859Part6),
  ("iso8859_7", ["csisolatingreek", "ecma_118", "elot_928", "greek", "greek8", "iso_8859_7", "iso_8859_7_1987",
    "iso_ir_126"], single CharsetTables.iso8859Part7),
  ("iso8859_8", ["csisolatinhebrew", "hebrew", "iso_8859_8", "iso_8859_8_1988", "iso_ir_138"], single
    CharsetTables.iso8859Part8),
  ("iso8859_9", ["csisolatin5", "iso_8859_9", "iso_8859_9_1989", "iso_ir_148", "l5", "latin5"], single
    CharsetTables.iso8859Part9),
  ("koi8_r", ["cskoi8r"], single CharsetTables.koi8R),
  ("koi8_t", [], single CharsetTables.koi8T),
  ("koi8_u", [], single CharsetTables.koi8U),
  ("kz1048", ["kz_1048", "rk1048", "strk1048_2002"], single CharsetTables.kz1048),
  ("latin_1", ["8859", "cp819", "csisolatin1", "ibm819", "iso8859", "iso8859_1", "iso_8859_1",
    "iso_8859_1_1987", "iso_ir_100", "l1", "latin", "latin1"], single []),
  ("mac_arabic", [], single CharsetTables.macArabic),
  ("mac_croatian", [], single CharsetTables.macCroatian),
  ("mac_cyrillic", ["maccyrillic"], single CharsetTables.macCyrillic),
  ("mac_farsi", [], single CharsetTables.macFarsi),
  ("mac_greek", ["macgreek"], single CharsetTables.macGreek),
  ("mac_iceland", ["maciceland"], single CharsetTables.macIceland),
  ("mac_latin2", ["mac_centeuro", "maccentraleurope", "maclatin2"], single CharsetTables.macLatin2),
  ("mac_roman", ["macintosh", "macroman"], single CharsetTables.macRoman),
  ("mac_romanian", [], single CharsetTables.macRomanian),
  ("mac_turkish", ["macturkish"], single CharsetTables.macTurkish),
  ("palmos", [], single CharsetTables.palmos),
  ("ptcp154", ["cp154", "csptcp154", "cyrillic_asian", "pt154"], single CharsetTables.ptcp154),
  ("punycode", [], punycode),
  ("quopri_codec", ["quopri", "quoted_printable", "quotedprintable"], unreadable .ofBytes),
  ("raw_unicode_escape", [], escaped true),
  ("rot_13", ["rot13"], unreadable .ofTexts),
  ("shift_jis", ["csshiftjis", "s_jis", "shiftjis", "sjis", "x_mac_japanese"], wide .shiftJis),
  ("tis_620", ["iso_ir_166", "tis620", "tis_620_0", "tis_620_2529_0", "tis_620_2529_1"], single
    CharsetTables.tis620),
  ("undefined", [], unreadable .undefined),
  ("unicode_escape", [], escaped false),
  ("utf_16", ["u16", "utf16"], utf16Marked),
  ("utf_16_be", ["unicodebigunmarked", "utf_16be"], utf16 true),
  ("utf_16_le", ["unicodelittleunmarked", "utf_16le"], utf16 false),
  ("utf_32", ["u32", "utf32"], utf32Marked),
  ("utf_32_be", ["utf_32be"], utf32 true),
  ("utf_32_le", ["utf_32le"], utf32 false),
  ("utf_7", ["u7", "unicode_1_1_utf_7", "utf7"], shifted .utf7),
  ("utf_8", ["cp65001", "u8", "utf", "utf8", "utf8_ucs2", "utf8_ucs4"], utf8),
  ("utf_8_sig", [], utf8Marked),
  ("uu_codec", ["uu"], unreadable .ofBytes),
  ("zlib_codec", ["zip", "zlib"], unreadable .ofBytes)]

/-- Whether a character can stand in the plain form of a name. -/
def isNameChar (c : Char) : Bool := isAsciiLetter c || isAsciiDigit c || c == '.'

/-- A name with an underscore between its parts, whatever marks stand there. -/
def plainName : Bool → List Char → List Char
  | _, [] => []
  | pending, c :: rest =>
    if isNameChar c then (if pending then ['_', c.toLower] else [c.toLower]) ++ plainName false rest
    else plainName true rest

/-- A name with underscores for its points. -/
def withoutPoints (name : String) : String := name.map fun c => if c == '.' then '_' else c

/-- The encoding of a name. -/
def ofName? (name : String) : Option Charset :=
  let plain := String.ofList (plainName false (name.toList.dropWhile fun c => !isNameChar c))
  let spellings := [plain, withoutPoints plain]
  (names.find? fun (own, others, _) => own == plain || others.any spellings.contains).map fun (_, _, charset) => charset

/-! ### Reading -/

/-- The character of a byte in an encoding of one byte for a character. -/
def charOf (runs : List (Nat × String)) (b : UInt8) : Char :=
  let n := b.toNat
  match runs.find? fun (first, s) => first ≤ n && n < first + s.length with
  | some (first, s) => s.toList.getD (n - first) replacement
  | none => Char.ofNat n

/-- The character of two halves of a surrogate pair. -/
def ofHalves (high low : Nat) : Char := Char.ofNat (0x10000 + (high - 0xD800) * 0x400 + (low - 0xDC00))

/-- Whether a number is a half of a surrogate pair. -/
def isHalf (n : Nat) : Bool := 0xD800 ≤ n && n < 0xE000

/-- The characters of UTF-16 units. A half without its other half stands for nothing. `odd` tells whether a byte is left
over at the end; it stands for nothing as well, together with a first half in front of it. -/
def ofUnits (odd : Bool) : List Nat → List Char
  | [] => if odd then [replacement] else []
  | [n] =>
    if 0xD800 ≤ n && n < 0xDC00 then [replacement]
    else (if isHalf n then replacement else Char.ofNat n) :: ofUnits odd []
  | n :: m :: rest =>
    if 0xD800 ≤ n && n < 0xDC00 && 0xDC00 ≤ m && m < 0xE000 then ofHalves n m :: ofUnits odd rest
    else (if isHalf n then replacement else Char.ofNat n) :: ofUnits odd (m :: rest)

/-- A number of bytes. -/
def ofBytes (bigEndian : Bool) (bytes : Bytes) : Nat :=
  (if bigEndian then bytes else bytes.reverse).foldl (fun n b => 256 * n + b.toNat) 0

/-- The numbers of so many bytes each, and whether some bytes are left over. -/
def units (bigEndian : Bool) (size : Nat) : Nat → Bytes → List Nat × Bool
  | 0, _ => ([], false)
  | fuel + 1, bytes =>
    if bytes.length < size then ([], !bytes.isEmpty)
    else
      let (us, odd) := units bigEndian size fuel (bytes.drop size)
      (ofBytes bigEndian (bytes.take size) :: us, odd)

/-- The text of UTF-16 bytes. -/
def ofUtf16 (bigEndian : Bool) (bytes : Bytes) : String :=
  let (us, odd) := units bigEndian 2 (bytes.length + 1) bytes
  String.ofList (ofUnits odd us)

/-- The text of UTF-32 bytes. -/
def ofUtf32 (bigEndian : Bool) (bytes : Bytes) : String :=
  let (us, odd) := units bigEndian 4 (bytes.length + 1) bytes
  let chars := us.map fun n => if isHalf n || 0x10FFFF < n then replacement else Char.ofNat n
  String.ofList (chars ++ if odd then [replacement] else [])

/-- The text of UTF-16 bytes under a mark that tells their order. Too few bytes for a mark need none. -/
def ofMarkedUtf16 (bytes : Bytes) : Except Unreadable String :=
  if [0xFE, 0xFF].isPrefixOf bytes then .ok (ofUtf16 true (bytes.drop 2))
  else if [0xFF, 0xFE].isPrefixOf bytes then .ok (ofUtf16 false (bytes.drop 2))
  else if bytes.length < 2 then .ok (ofUtf16 false bytes)
  else .error (.noByteOrder 16)

/-- The text of UTF-32 bytes under a mark that tells their order. Too few bytes for a mark need none. -/
def ofMarkedUtf32 (bytes : Bytes) : Except Unreadable String :=
  if [0, 0, 0xFE, 0xFF].isPrefixOf bytes then .ok (ofUtf32 true (bytes.drop 4))
  else if [0xFF, 0xFE, 0, 0].isPrefixOf bytes then .ok (ofUtf32 false (bytes.drop 4))
  else if bytes.length < 4 then .ok (ofUtf32 false bytes)
  else .error (.noByteOrder 32)

/-- The text of bytes. -/
def read : Charset → Bytes → Except Unreadable String
  | utf8, bytes => .ok (ofUtf8 bytes)
  | utf8Marked, bytes => .ok (ofUtf8 (if [0xEF, 0xBB, 0xBF].isPrefixOf bytes then bytes.drop 3 else bytes))
  | utf16 bigEndian, bytes => .ok (ofUtf16 bigEndian bytes)
  | utf16Marked, bytes => ofMarkedUtf16 bytes
  | utf32 bigEndian, bytes => .ok (ofUtf32 bigEndian bytes)
  | utf32Marked, bytes => ofMarkedUtf32 bytes
  | ascii, bytes => .ok (String.ofList (bytes.map fun b => if b.toNat < 128 then Char.ofNat b.toNat else replacement))
  | single runs, bytes => .ok (String.ofList (bytes.map (charOf runs)))
  | wide encoding, bytes => encoding.read bytes
  | shifted encoding, bytes => encoding.read bytes
  | escaped raw, bytes => .ok (Escape.textOf raw bytes)
  | punycode, bytes => Punycode.textOf bytes
  | unreadable cause, bytes => if bytes.isEmpty then .ok "" else .error cause

end Charset

end Courier.Text
