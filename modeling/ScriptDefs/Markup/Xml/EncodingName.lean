import ScriptDefs.Text.Case
import ScriptDefs.Text.ByteTable.Iso
import ScriptDefs.Text.ByteTable.Windows
import ScriptDefs.Text.ByteTable.Dos
import ScriptDefs.Text.ByteTable.Mac
import ScriptDefs.Text.ByteTable.Other

/-!
# Names of encodings

The encodings that a document can name besides those of the standard itself, as far as documents can be read
in them: those that are tables of single bytes.
-/

namespace ScriptDefs.Markup.Xml

/-- What a named encoding is. -/
inductive EncodingForm where
  | table (t : ByteTable)
  | multiByte
  /-- Characters of markup have other bytes than in ASCII. -/
  | unsuitable
  /-- Single bytes have no characters at all. -/
  | withoutTable
  /-- Single bytes are not always texts. -/
  | undecodable
  deriving DecidableEq, Repr

/-- An encoding with its own names and its aliases. -/
structure NamedEncoding where
  names : List String
  aliases : List String
  form : EncodingForm
  deriving Repr

namespace NamedEncoding

/-- ISO 8859 and the Thai standard. -/
def iso : List NamedEncoding :=
  [
    ⟨["iso8859_2"],
      ["csisolatin2", "iso_8859_2", "iso_8859_2_1987", "iso_ir_101", "l2", "latin2"],
      .table .latin2⟩,
    ⟨["iso8859_3"],
      ["csisolatin3", "iso_8859_3", "iso_8859_3_1988", "iso_ir_109", "l3", "latin3"],
      .table .latin3⟩,
    ⟨["iso8859_4"],
      ["csisolatin4", "iso_8859_4", "iso_8859_4_1988", "iso_ir_110", "l4", "latin4"],
      .table .latin4⟩,
    ⟨["iso8859_5"],
      ["csisolatincyrillic", "cyrillic", "iso_8859_5", "iso_8859_5_1988", "iso_ir_144"],
      .table .latinCyrillic⟩,
    ⟨["iso8859_6"],
      ["arabic", "asmo_708", "csisolatinarabic", "ecma_114", "iso_8859_6", "iso_8859_6_1987",
       "iso_ir_127"],
      .table .latinArabic⟩,
    ⟨["iso8859_7"],
      ["csisolatingreek", "ecma_118", "elot_928", "greek", "greek8", "iso_8859_7",
       "iso_8859_7_1987", "iso_ir_126"],
      .table .latinGreek⟩,
    ⟨["iso8859_8"],
      ["csisolatinhebrew", "hebrew", "iso_8859_8", "iso_8859_8_1988", "iso_ir_138"],
      .table .latinHebrew⟩,
    ⟨["iso8859_9"],
      ["csisolatin5", "iso_8859_9", "iso_8859_9_1989", "iso_ir_148", "l5", "latin5"],
      .table .latin5⟩,
    ⟨["iso8859_10"],
      ["csisolatin6", "iso_8859_10", "iso_8859_10_1992", "iso_ir_157", "l6", "latin6"],
      .table .latin6⟩,
    ⟨["iso8859_11"], ["iso_8859_11", "iso_8859_11_2001", "thai"], .table .latinThai⟩,
    ⟨["iso8859_13"], ["iso_8859_13", "l7", "latin7"], .table .latin7⟩,
    ⟨["iso8859_14"],
      ["iso_8859_14", "iso_8859_14_1998", "iso_celtic", "iso_ir_199", "l8", "latin8"],
      .table .latin8⟩,
    ⟨["iso8859_15"], ["iso_8859_15", "l9", "latin9"], .table .latin9⟩,
    ⟨["iso8859_16"],
      ["iso_8859_16", "iso_8859_16_2001", "iso_ir_226", "l10", "latin10"],
      .table .latin10⟩,
    ⟨["tis_620"],
      ["iso_ir_166", "tis620", "tis_620_0", "tis_620_2529_0", "tis_620_2529_1"],
      .table .thai⟩
  ]

/-- The code pages of Windows. -/
def windows : List NamedEncoding :=
  [
    ⟨["cp1250"], ["windows_1250"], .table .windows1250⟩,
    ⟨["cp1251"], ["windows_1251"], .table .windows1251⟩,
    ⟨["cp1252"], ["windows_1252"], .table .windows1252⟩,
    ⟨["cp1253"], ["windows_1253"], .table .windows1253⟩,
    ⟨["cp1254"], ["windows_1254"], .table .windows1254⟩,
    ⟨["cp1255"], ["windows_1255"], .table .windows1255⟩,
    ⟨["cp1256"], ["windows_1256"], .table .windows1256⟩,
    ⟨["cp1257"], ["windows_1257"], .table .windows1257⟩,
    ⟨["cp1258"], ["windows_1258"], .table .windows1258⟩
  ]

/-- The code pages of DOS. -/
def dos : List NamedEncoding :=
  [
    ⟨["cp437"], ["cspc8codepage437", "ibm437"], .table .dos437⟩,
    ⟨["cp720"], [], .table .dos720⟩,
    ⟨["cp737"], [], .table .dos737⟩,
    ⟨["cp775"], ["cspc775baltic", "ibm775"], .table .dos775⟩,
    ⟨["cp850"], ["cspc850multilingual", "ibm850"], .table .dos850⟩,
    ⟨["cp852"], ["cspcp852", "ibm852"], .table .dos852⟩,
    ⟨["cp855"], ["csibm855", "ibm855"], .table .dos855⟩,
    ⟨["cp856"], [], .table .dos856⟩,
    ⟨["cp857"], ["csibm857", "ibm857"], .table .dos857⟩,
    ⟨["cp858"], ["csibm858", "ibm858"], .table .dos858⟩,
    ⟨["cp860"], ["csibm860", "ibm860"], .table .dos860⟩,
    ⟨["cp861"], ["cp_is", "csibm861", "ibm861"], .table .dos861⟩,
    ⟨["cp862"], ["cspc862latinhebrew", "ibm862"], .table .dos862⟩,
    ⟨["cp863"], ["csibm863", "ibm863"], .table .dos863⟩,
    ⟨["cp865"], ["csibm865", "ibm865"], .table .dos865⟩,
    ⟨["cp866"], ["csibm866", "ibm866"], .table .dos866⟩,
    ⟨["cp869"], ["cp_gr", "csibm869", "ibm869"], .table .dos869⟩,
    ⟨["cp874"], [], .table .dos874⟩,
    ⟨["cp1125"], ["cp866u", "ibm1125", "ruscii"], .table .dos1125⟩
  ]

/-- The scripts of the Macintosh. -/
def macintosh : List NamedEncoding :=
  [
    ⟨["mac_croatian"], [], .table .macCroatian⟩,
    ⟨["mac_cyrillic"], ["maccyrillic"], .table .macCyrillic⟩,
    ⟨["mac_greek"], ["macgreek"], .table .macGreek⟩,
    ⟨["mac_iceland"], ["maciceland"], .table .macIceland⟩,
    ⟨["mac_roman"], ["macintosh", "macroman"], .table .macRoman⟩,
    ⟨["mac_romanian"], [], .table .macRomanian⟩,
    ⟨["mac_turkish"], ["macturkish"], .table .macTurkish⟩,
    ⟨["mac_latin2"], ["mac_centeuro", "maccentraleurope", "maclatin2"], .table .macLatin2⟩
  ]

/-- Encodings for single languages and of single makers. -/
def further : List NamedEncoding :=
  [
    ⟨["palmos"], [], .table .palmOs⟩,
    ⟨["hp_roman8"], ["cp1051", "ibm1051", "r8", "roman8"], .table .roman8⟩,
    ⟨["koi8_r"], ["cskoi8r"], .table .koi8R⟩,
    ⟨["koi8_t"], [], .table .koi8T⟩,
    ⟨["koi8_u"], [], .table .koi8U⟩,
    ⟨["ptcp154"], ["cp154", "csptcp154", "cyrillic_asian", "pt154"], .table .asianCyrillic⟩,
    ⟨["cp1006"], [], .table .urdu⟩,
    ⟨["kz1048"], ["kz_1048", "rk1048", "strk1048_2002"], .table .kazakh⟩
  ]

/-- Encodings that are ASCII or Latin-1 as far as single bytes go, and those in which no document can be
read. -/
def general : List NamedEncoding :=
  [
    ⟨["ascii", "iso2022_jp", "iso2022_jp_1", "iso2022_jp_2", "iso2022_jp_2004", "iso2022_jp_3",
      "iso2022_jp_ext", "utf_8", "utf_8_sig"],
      ["ansi_x3.4_1968", "ansi_x3.4_1986", "ansi_x3_4_1968", "cp367", "cp65001", "csascii",
       "csiso2022jp", "ibm367", "iso2022jp", "iso2022jp_1", "iso2022jp_2", "iso2022jp_2004",
       "iso2022jp_3", "iso2022jp_ext", "iso646_us", "iso_2022_jp", "iso_2022_jp_1", "iso_2022_jp_2",
       "iso_2022_jp_2004", "iso_2022_jp_3", "iso_2022_jp_ext", "iso_646.irv_1991", "iso_ir_6", "u8",
       "us", "us_ascii", "utf", "utf8", "utf8_ucs2", "utf8_ucs4"],
      .table .ascii⟩,
    ⟨["charmap", "iso8859_1", "latin_1", "raw_unicode_escape", "unicode_escape"],
      ["cp819", "csisolatin1", "ibm819", "iso8859", "iso8859_1", "iso_8859_1", "iso_8859_1_1987",
       "iso_ir_100", "l1", "latin", "latin1"],
      .table .identity⟩,
    ⟨["hz"], ["hz_gb", "hz_gb_2312", "hzgb"], .table .asciiWithoutTilde⟩,
    ⟨["cp037", "cp1026", "cp1140", "cp273", "cp424", "cp500", "cp864", "cp875", "mac_arabic",
      "mac_farsi"],
      ["csibm037", "ebcdic_cp_ca", "ebcdic_cp_nl", "ebcdic_cp_us", "ebcdic_cp_wt", "ibm037",
       "ibm039", "csibm1026", "ibm1026", "ibm1140", "csibm273", "ibm273", "csibm424",
       "ebcdic_cp_he", "ibm424", "csibm500", "ebcdic_cp_be", "ebcdic_cp_ch", "ibm500", "csibm864",
       "ibm864"],
      .unsuitable⟩,
    ⟨["big5", "big5hkscs", "cp932", "cp949", "cp950", "euc_jis_2004", "euc_jisx0213", "euc_jp",
      "euc_kr", "gb18030", "gb2312", "gbk", "iso2022_kr", "johab", "shift_jis", "shift_jis_2004",
      "shift_jisx0213", "utf_16", "utf_16_be", "utf_16_le", "utf_32", "utf_32_be", "utf_32_le",
      "utf_7"],
      ["big5_hkscs", "big5_tw", "chinese", "cp1361", "cp936", "csbig5", "csiso2022kr",
       "csiso58gb231280", "csshiftjis", "euc_cn", "euc_jis2004", "euccn", "eucgb2312_cn",
       "eucjis2004", "eucjisx0213", "eucjp", "euckr", "gb18030_2000", "gb2312_1980", "gb2312_80",
       "hkscs", "iso2022kr", "iso_2022_kr", "iso_ir_58", "jisx0213", "korean", "ks_c_5601",
       "ks_c_5601_1987", "ks_x_1001", "ksc5601", "ksx1001", "ms1361", "ms932", "ms936", "ms949",
       "ms950", "ms_kanji", "mskanji", "s_jis", "s_jis_2004", "s_jisx0213", "shiftjis",
       "shiftjis2004", "shiftjisx0213", "sjis", "sjis_2004", "sjisx0213", "u16", "u32", "u7",
       "u_jis", "uhc", "ujis", "unicode_1_1_utf_7", "unicodebigunmarked", "unicodelittleunmarked",
       "utf16", "utf32", "utf7", "utf_16be", "utf_16le", "utf_32be", "utf_32le", "x_mac_japanese",
       "x_mac_korean", "x_mac_simp_chinese", "x_mac_trad_chinese"],
      .multiByte⟩,
    ⟨["idna", "undefined"], [], .withoutTable⟩,
    ⟨["punycode"], [], .undecodable⟩
  ]

/-- All of them. -/
def all : List NamedEncoding := general ++ iso ++ windows ++ dos ++ macintosh ++ further

/-- A character is part of a word in the name of an encoding. -/
def isWordChar (c : CodePoint) : Bool :=
  match c with
  | .scalar c => c.isAlphanum || c = '.'
  | .surrogate _ => false

/-- The words of a name with single underscores between them, in lower case. -/
def normalForm (name : Text) : Text :=
  let spaced := name.lower.map fun c ↦ if isWordChar c then c else .scalar '_'
  Text.joinWith (Text.ofString "_") ((spaced.splitOn (.scalar '_')).filter (!·.isEmpty))

/-- Some names hold a text. -/
def holds (names : List String) (t : Text) : Bool := names.any fun n ↦ Text.ofString n = t

/-- The encoding with a name. In an alias, points may stand for underscores. -/
def find? (name : Text) : Option NamedEncoding :=
  let n := normalForm name
  let joined := n.map fun c ↦ if c = .scalar '.' then .scalar '_' else c
  (all.find? fun e ↦ holds e.aliases n) <|> (all.find? fun e ↦ holds e.aliases joined) <|>
    (all.find? fun e ↦ holds e.names n)

end NamedEncoding

end ScriptDefs.Markup.Xml
