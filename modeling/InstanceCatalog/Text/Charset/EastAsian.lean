import InstanceCatalog.Text.Charset.Switched

/-! # The sets of East Asia -/

namespace InstanceCatalog.Text.Charset

/-- The ways in which texts of East Asia are coded. -/
inductive EastAsian where
  /-- With two rows of Japanese to each byte that leads. -/
  | shifted (edition : Japanese)
  /-- With rows and cells of Japanese as they are. -/
  | rows (edition : Japanese)
  | switched (k : Switched)
  | simplified
  /-- With the other ideographs around the simplified ones. -/
  | extended
  /-- With all characters. -/
  | national
  /-- With tildes before pairs of bytes that are ASCII. -/
  | tilde
  | traditional
  /-- With the signs of vendors among the traditional characters. -/
  | vendor
  | hongKong
  | korean
  /-- With all syllables of Korean. -/
  | unified
  /-- With the letters of syllables. -/
  | lettered
deriving DecidableEq, Repr

namespace EastAsian

/-- The characters of some bytes and how their reading ends. -/
def read : EastAsian → Bytes → List (Option Char) × Ending
  | .shifted edition => readBy (Japanese.shiftRule edition)
  | .rows edition => readBy (Japanese.extendedRule edition)
  | .switched k => readOn k.rule {} []
  | .simplified => readBy Chinese.simplifiedRule
  | .extended => readBy Chinese.extendedRule
  | .national => readBy Chinese.nationalRule
  | .tilde => readOn Chinese.tildeRule false []
  | .traditional => readBy Chinese.traditionalRule
  | .vendor => readBy Chinese.vendorRule
  | .hongKong => readBy Chinese.hongKongRule
  | .korean => readBy Korean.basicRule
  | .unified => readBy Korean.unifiedRule
  | .lettered => readBy Korean.letteredRule

/-- The sets by their names, as those of `Charset.named`. -/
def named : List (List String × EastAsian) :=
  [(["shift_jis", "csshiftjis", "s_jis", "shiftjis", "sjis", "x_mac_japanese"], .shifted .basic),
    (["cp932", "932", "ms932", "ms_kanji", "mskanji"], .shifted .vendor),
    (["shift_jisx0213", "s_jisx0213", "shiftjisx0213", "sjisx0213"], .shifted .extended2000),
    (["shift_jis_2004", "s_jis_2004", "shiftjis2004", "sjis_2004"], .shifted .extended2004),
    (["euc_jp", "eucjp", "u_jis", "ujis"], .rows .basic),
    (["euc_jisx0213", "eucjisx0213"], .rows .extended2000),
    (["euc_jis_2004", "euc_jis2004", "eucjis2004", "jisx0213"], .rows .extended2004),
    (["iso2022_jp", "csiso2022jp", "iso2022jp", "iso_2022_jp"], .switched .japanese),
    (["iso2022_jp_1", "iso2022jp_1", "iso_2022_jp_1"], .switched .japanese1),
    (["iso2022_jp_2", "iso2022jp_2", "iso_2022_jp_2"], .switched .japanese2),
    (["iso2022_jp_3", "iso2022jp_3", "iso_2022_jp_3"], .switched .japanese3),
    (["iso2022_jp_2004", "iso2022jp_2004", "iso_2022_jp_2004"], .switched .japanese2004),
    (["iso2022_jp_ext", "iso2022jp_ext", "iso_2022_jp_ext"], .switched .japaneseExtended),
    (["iso2022_kr", "csiso2022kr", "iso2022kr", "iso_2022_kr"], .switched .korean),
    (["gb2312", "chinese", "csiso58gb231280", "euc_cn", "euccn", "eucgb2312_cn", "gb2312_1980",
      "gb2312_80", "iso_ir_58", "x_mac_simp_chinese"], .simplified),
    (["gbk", "936", "cp936", "ms936"], .extended),
    (["gb18030", "gb18030_2000"], .national),
    (["hz", "hz_gb", "hz_gb_2312", "hzgb"], .tilde),
    (["big5", "big5_tw", "csbig5", "x_mac_trad_chinese"], .traditional),
    (["cp950", "950", "ms950"], .vendor),
    (["big5hkscs", "big5_hkscs", "hkscs"], .hongKong),
    (["euc_kr", "euckr", "korean", "ks_c_5601", "ks_c_5601_1987", "ks_x_1001", "ksc5601",
      "ksx1001", "x_mac_korean"], .korean),
    (["cp949", "949", "ms949", "uhc"], .unified),
    (["johab", "cp1361", "ms1361"], .lettered)]

end EastAsian

end InstanceCatalog.Text.Charset
