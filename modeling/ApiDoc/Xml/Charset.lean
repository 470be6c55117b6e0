/-
This file lists the charsets that a document can declare by name, apart from those that every reader
of markup knows. A charset of single bytes agrees with ASCII in its lower half; its upper half is
written out below, with the replacement character for a byte that means nothing.
-/
import ApiDoc.Xml.Coding

namespace ApiDoc.Xml

/-- What is known of a charset. -/
inductive Charset where
  | unknown
  | narrow (coding : Coding)
  | wide
  | notAscii
  deriving DecidableEq, Repr

namespace Charset

/-- The names of the charset whose bytes are the first 256 characters. -/
def latinNames : List String :=
  ["8859", "charmap", "cp819", "csisolatin1", "ibm819", "iso8859", "iso8859_1", "iso_8859_1",
    "iso_8859_1_1987", "iso_ir_100", "l1", "latin", "latin1", "latin_1", "raw_unicode_escape",
    "unicode_escape"]

/-- The names of charsets of which a single byte of the upper half means nothing. -/
def asciiNames : List String :=
  ["646", "ansi_x3.4_1968", "ansi_x3.4_1986", "ansi_x3_4_1968", "ascii", "cp367", "cp65001",
    "csascii", "csiso2022jp", "hz", "hz_gb", "hz_gb_2312", "hzgb", "ibm367", "iso2022_jp",
    "iso2022_jp_1", "iso2022_jp_2", "iso2022_jp_2004", "iso2022_jp_3", "iso2022_jp_ext",
    "iso2022jp", "iso2022jp_1", "iso2022jp_2", "iso2022jp_2004", "iso2022jp_3", "iso2022jp_ext",
    "iso646_us", "iso_2022_jp", "iso_2022_jp_1", "iso_2022_jp_2", "iso_2022_jp_2004",
    "iso_2022_jp_3", "iso_2022_jp_ext", "iso_646.irv_1991", "iso_ir_6", "u8", "us", "us_ascii",
    "utf", "utf8", "utf8_ucs2", "utf8_ucs4", "utf_8", "utf_8_sig"]

/-- The names of charsets whose characters may take more than one byte. -/
def wideNames : List String :=
  ["932", "936", "949", "950", "big5", "big5_hkscs", "big5_tw", "big5hkscs", "chinese",
    "cp1361", "cp932", "cp936", "cp949", "cp950", "csbig5", "csiso2022kr", "csiso58gb231280",
    "csshiftjis", "euc_cn", "euc_jis2004", "euc_jis_2004", "euc_jisx0213", "euc_jp", "euc_kr",
    "euccn", "eucgb2312_cn", "eucjis2004", "eucjisx0213", "eucjp", "euckr", "gb18030",
    "gb18030_2000", "gb2312", "gb2312_1980", "gb2312_80", "gbk", "hkscs", "iso2022_kr",
    "iso2022kr", "iso_2022_kr", "iso_ir_58", "jisx0213", "johab", "korean", "ks_c_5601",
    "ks_c_5601_1987", "ks_x_1001", "ksc5601", "ksx1001", "ms1361", "ms932", "ms936", "ms949",
    "ms950", "ms_kanji", "mskanji", "s_jis", "s_jis_2004", "s_jisx0213", "shift_jis",
    "shift_jis_2004", "shift_jisx0213", "shiftjis", "shiftjis2004", "shiftjisx0213", "sjis",
    "sjis_2004", "sjisx0213", "u16", "u32", "u7", "u_jis", "uhc", "ujis", "unicode_1_1_utf_7",
    "unicodebigunmarked", "unicodelittleunmarked", "utf16", "utf32", "utf7", "utf_16",
    "utf_16_be", "utf_16_le", "utf_16be", "utf_16le", "utf_32", "utf_32_be", "utf_32_le",
    "utf_32be", "utf_32le", "utf_7", "x_mac_japanese", "x_mac_korean", "x_mac_simp_chinese",
    "x_mac_trad_chinese"]

/-- The names of charsets whose lower half differs from ASCII. -/
def notAsciiNames : List String :=
  ["037", "1026", "1140", "273", "424", "500", "864", "cp037", "cp1026", "cp1140", "cp273",
    "cp424", "cp500", "cp864", "cp875", "csibm037", "csibm1026", "csibm273", "csibm424",
    "csibm500", "csibm864", "ebcdic_cp_be", "ebcdic_cp_ca", "ebcdic_cp_ch", "ebcdic_cp_he",
    "ebcdic_cp_nl", "ebcdic_cp_us", "ebcdic_cp_wt", "ibm037", "ibm039", "ibm1026", "ibm1140",
    "ibm273", "ibm424", "ibm500", "ibm864", "mac_arabic", "mac_farsi"]

/-- The names and the upper halves of the other charsets. -/
def upperHalves : List (List String × String) :=
 [(["1125", "cp1125", "cp866u", "ibm1125", "ruscii"],
    "АБВГДЕЖЗИЙКЛМНОПРСТУФХЦЧШЩЪЫЬЭЮЯабвгдежзийклмноп░▒▓│┤╡╢╖╕╣║╗╝╜╛┐└┴┬├─┼╞╟╚╔╩╦╠═╬╧" ++
      "╨╤╥╙╘╒╓╫╪┘┌█▄▌▐▀рстуфхцчшщъыьэюяЁёҐґЄєІіЇї·√№¤■\u00A0"),
 (["1250", "cp1250", "windows_1250"],
    "€\uFFFD‚\uFFFD„…†‡\uFFFD‰Š‹ŚŤŽŹ\uFFFD‘’“”•–—\uFFFD™š›śťžź\u00A0ˇ˘Ł¤Ą¦§¨©Ş«¬" ++
      "\u00AD®Ż°±˛ł´µ¶·¸ąş»Ľ˝ľżŔÁÂĂÄĹĆÇČÉĘËĚÍÎĎĐŃŇÓÔŐÖ×ŘŮÚŰÜÝŢßŕáâăäĺćçčéęëěíîďđńňóôőö÷" ++
      "řůúűüýţ˙"),
 (["1251", "cp1251", "windows_1251"],
    "ЂЃ‚ѓ„…†‡€‰Љ‹ЊЌЋЏђ‘’“”•–—\uFFFD™љ›њќћџ\u00A0ЎўЈ¤Ґ¦§Ё©Є«¬\u00AD®Ї°±Ііґµ¶·ё№є»јЅѕїА" ++
      "БВГДЕЖЗИЙКЛМНОПРСТУФХЦЧШЩЪЫЬЭЮЯабвгдежзийклмнопрстуфхцчшщъыьэюя"),
 (["1252", "cp1252", "windows_1252"],
    "€\uFFFD‚ƒ„…†‡ˆ‰Š‹Œ\uFFFDŽ\uFFFD\uFFFD‘’“”•–—˜™š›œ\uFFFDžŸ\u00A0¡¢£¤¥¦§¨©ª«¬" ++
      "\u00AD®¯°±²³´µ¶·¸¹º»¼½¾¿ÀÁÂÃÄÅÆÇÈÉÊËÌÍÎÏÐÑÒÓÔÕÖ×ØÙÚÛÜÝÞßàáâãäåæçèéêëìíîïðñòóôõö÷" ++
      "øùúûüýþÿ"),
 (["1253", "cp1253", "windows_1253"],
    "€\uFFFD‚ƒ„…†‡\uFFFD‰\uFFFD‹\uFFFD\uFFFD\uFFFD\uFFFD\uFFFD‘’“”•–—\uFFFD™\uFFFD›" ++
      "\uFFFD\uFFFD\uFFFD\uFFFD\u00A0΅Ά£¤¥¦§¨©\uFFFD«¬\u00AD®―°±²³΄µ¶·ΈΉΊ»Ό½ΎΏΐΑΒΓΔΕΖΗΘ" ++
      "ΙΚΛΜΝΞΟΠΡ\uFFFDΣΤΥΦΧΨΩΪΫάέήίΰαβγδεζηθικλμνξοπρςστυφχψωϊϋόύώ\uFFFD"),
 (["1254", "cp1254", "windows_1254"],
    "€\uFFFD‚ƒ„…†‡ˆ‰Š‹Œ\uFFFD\uFFFD\uFFFD\uFFFD‘’“”•–—˜™š›œ\uFFFD\uFFFDŸ\u00A0¡¢£¤¥¦§" ++
      "¨©ª«¬\u00AD®¯°±²³´µ¶·¸¹º»¼½¾¿ÀÁÂÃÄÅÆÇÈÉÊËÌÍÎÏĞÑÒÓÔÕÖ×ØÙÚÛÜİŞßàáâãäåæçèéêëìíîïğñò" ++
      "óôõö÷øùúûüışÿ"),
 (["1255", "cp1255", "windows_1255"],
    "€\uFFFD‚ƒ„…†‡ˆ‰\uFFFD‹\uFFFD\uFFFD\uFFFD\uFFFD\uFFFD‘’“”•–—˜™\uFFFD›\uFFFD\uFFFD" ++
      "\uFFFD\uFFFD\u00A0¡¢£₪¥¦§¨©×«¬\u00AD®¯°±²³´µ¶·¸¹÷»¼½¾¿\u05B0\u05B1\u05B2\u05B3" ++
      "\u05B4\u05B5\u05B6\u05B7\u05B8\u05B9\uFFFD\u05BB\u05BC\u05BD\u05BE\u05BF\u05C0" ++
      "\u05C1\u05C2\u05C3\u05F0\u05F1\u05F2\u05F3\u05F4\uFFFD\uFFFD\uFFFD\uFFFD\uFFFD" ++
      "\uFFFD\uFFFD\u05D0\u05D1\u05D2\u05D3\u05D4\u05D5\u05D6\u05D7\u05D8\u05D9\u05DA" ++
      "\u05DB\u05DC\u05DD\u05DE\u05DF\u05E0\u05E1\u05E2\u05E3\u05E4\u05E5\u05E6\u05E7" ++
      "\u05E8\u05E9\u05EA\uFFFD\uFFFD\u200E\u200F\uFFFD"),
 (["1256", "cp1256", "windows_1256"],
    "€\u067E‚ƒ„…†‡ˆ‰\u0679‹Œ\u0686\u0698\u0688\u06AF‘’“”•–—\u06A9™\u0691›œ\u200C" ++
      "\u200D\u06BA\u00A0،¢£¤¥¦§¨©\u06BE«¬\u00AD®¯°±²³´µ¶·¸¹\u061B»¼½¾\u061F\u06C1" ++
      "\u0621\u0622\u0623\u0624\u0625\u0626\u0627\u0628\u0629\u062A\u062B\u062C\u062D" ++
      "\u062E\u062F\u0630\u0631\u0632\u0633\u0634\u0635\u0636×\u0637\u0638\u0639\u063A" ++
      "\u0640\u0641\u0642\u0643à\u0644â\u0645\u0646\u0647\u0648çèéêë\u0649\u064Aîï" ++
      "\u064B\u064C\u064D\u064Eô\u064F\u0650÷\u0651ù\u0652ûü\u200E\u200F\u06D2"),
 (["1257", "cp1257", "windows_1257"],
    "€\uFFFD‚\uFFFD„…†‡\uFFFD‰\uFFFD‹\uFFFD¨ˇ¸\uFFFD‘’“”•–—\uFFFD™\uFFFD›\uFFFD¯˛" ++
      "\uFFFD\u00A0\uFFFD¢£¤\uFFFD¦§Ø©Ŗ«¬\u00AD®Æ°±²³´µ¶·ø¹ŗ»¼½¾æĄĮĀĆÄÅĘĒČÉŹĖĢĶĪĻŠŃŅÓŌÕ" ++
      "Ö×ŲŁŚŪÜŻŽßąįāćäåęēčéźėģķīļšńņóōõö÷ųłśūüżž˙"),
 (["1258", "cp1258", "windows_1258"],
    "€\uFFFD‚ƒ„…†‡ˆ‰\uFFFD‹Œ\uFFFD\uFFFD\uFFFD\uFFFD‘’“”•–—˜™\uFFFD›œ\uFFFD\uFFFDŸ" ++
      "\u00A0¡¢£¤¥¦§¨©ª«¬\u00AD®¯°±²³´µ¶·¸¹º»¼½¾¿ÀÁÂĂÄÅÆÇÈÉÊË\u0300ÍÎÏĐÑ\u0309ÓÔƠÖ×ØÙÚÛ" ++
      "ÜƯ\u0303ßàáâăäåæçèéêë\u0301íîïđñ\u0323óôơö÷øùúûüư₫ÿ"),
 (["437", "cp437", "cspc8codepage437", "ibm437"],
    "ÇüéâäàåçêëèïîìÄÅÉæÆôöòûùÿÖÜ¢£¥₧ƒáíóúñÑªº¿⌐¬½¼¡«»░▒▓│┤╡╢╖╕╣║╗╝╜╛┐└┴┬├─┼╞╟╚╔╩╦╠═╬╧" ++
      "╨╤╥╙╘╒╓╫╪┘┌█▄▌▐▀αßΓπΣσµτΦΘΩδ∞φε∩≡±≥≤⌠⌡÷≈°∙·√ⁿ²■\u00A0"),
 (["775", "cp775", "cspc775baltic", "ibm775"],
    "ĆüéāäģåćłēŖŗīŹÄÅÉæÆōöĢ¢ŚśÖÜø£Ø×¤ĀĪóŻżź”¦©®¬½¼Ł«»░▒▓│┤ĄČĘĖ╣║╗╝ĮŠ┐└┴┬├─┼ŲŪ╚╔╩╦╠═╬Ž" ++
      "ąčęėįšųūž┘┌█▄▌▐▀ÓßŌŃõÕµńĶķĻļņĒŅ’\u00AD±“¾¶§÷„°∙·¹³²■\u00A0"),
 (["850", "cp850", "cspc850multilingual", "ibm850"],
    "ÇüéâäàåçêëèïîìÄÅÉæÆôöòûùÿÖÜø£Ø×ƒáíóúñÑªº¿®¬½¼¡«»░▒▓│┤ÁÂÀ©╣║╗╝¢¥┐└┴┬├─┼ãÃ╚╔╩╦╠═╬¤" ++
      "ðÐÊËÈıÍÎÏ┘┌█▄¦Ì▀ÓßÔÒõÕµþÞÚÛÙýÝ¯´\u00AD±‗¾¶§÷¸°¨·¹³²■\u00A0"),
 (["852", "cp852", "cspcp852", "ibm852"],
    "ÇüéâäůćçłëŐőîŹÄĆÉĹĺôöĽľŚśÖÜŤťŁ×čáíóúĄąŽžĘę¬źČş«»░▒▓│┤ÁÂĚŞ╣║╗╝Żż┐└┴┬├─┼Ăă╚╔╩╦╠═╬¤" ++
      "đĐĎËďŇÍÎě┘┌█▄ŢŮ▀ÓßÔŃńňŠšŔÚŕŰýÝţ´\u00AD˝˛ˇ˘§÷¸°¨˙űŘř■\u00A0"),
 (["855", "cp855", "csibm855", "ibm855"],
    "ђЂѓЃёЁєЄѕЅіІїЇјЈљЉњЊћЋќЌўЎџЏюЮъЪаАбБцЦдДеЕфФгГ«»░▒▓│┤хХиИ╣║╗╝йЙ┐└┴┬├─┼кК╚╔╩╦╠═╬¤" ++
      "лЛмМнНоОп┘┌█▄Пя▀ЯрРсСтТуУжЖвВьЬ№\u00ADыЫзЗшШэЭщЩчЧ§■\u00A0"),
 (["857", "cp857", "csibm857", "ibm857"],
    "ÇüéâäàåçêëèïîıÄÅÉæÆôöòûùİÖÜø£ØŞşáíóúñÑĞğ¿®¬½¼¡«»░▒▓│┤ÁÂÀ©╣║╗╝¢¥┐└┴┬├─┼ãÃ╚╔╩╦╠═╬¤" ++
      "ºªÊËÈ\uFFFDÍÎÏ┘┌█▄¦Ì▀ÓßÔÒõÕµ\uFFFD×ÚÛÙìÿ¯´\u00AD±\uFFFD¾¶§÷¸°¨·¹³²■\u00A0"),
 (["858", "cp858", "csibm858", "ibm858"],
    "ÇüéâäàåçêëèïîìÄÅÉæÆôöòûùÿÖÜø£Ø×ƒáíóúñÑªº¿®¬½¼¡«»░▒▓│┤ÁÂÀ©╣║╗╝¢¥┐└┴┬├─┼ãÃ╚╔╩╦╠═╬¤" ++
      "ðÐÊËÈ€ÍÎÏ┘┌█▄¦Ì▀ÓßÔÒõÕµþÞÚÛÙýÝ¯´\u00AD±‗¾¶§÷¸°¨·¹³²■\u00A0"),
 (["860", "cp860", "csibm860", "ibm860"],
    "ÇüéâãàÁçêÊèÍÔìÃÂÉÀÈôõòÚùÌÕÜ¢£Ù₧ÓáíóúñÑªº¿Ò¬½¼¡«»░▒▓│┤╡╢╖╕╣║╗╝╜╛┐└┴┬├─┼╞╟╚╔╩╦╠═╬╧" ++
      "╨╤╥╙╘╒╓╫╪┘┌█▄▌▐▀αßΓπΣσµτΦΘΩδ∞φε∩≡±≥≤⌠⌡÷≈°∙·√ⁿ²■\u00A0"),
 (["861", "cp861", "cp_is", "csibm861", "ibm861"],
    "ÇüéâäàåçêëèÐðÞÄÅÉæÆôöþûÝýÖÜø£Ø₧ƒáíóúÁÍÓÚ¿⌐¬½¼¡«»░▒▓│┤╡╢╖╕╣║╗╝╜╛┐└┴┬├─┼╞╟╚╔╩╦╠═╬╧" ++
      "╨╤╥╙╘╒╓╫╪┘┌█▄▌▐▀αßΓπΣσµτΦΘΩδ∞φε∩≡±≥≤⌠⌡÷≈°∙·√ⁿ²■\u00A0"),
 (["862", "cp862", "cspc862latinhebrew", "ibm862"],
    "\u05D0\u05D1\u05D2\u05D3\u05D4\u05D5\u05D6\u05D7\u05D8\u05D9\u05DA\u05DB\u05DC" ++
      "\u05DD\u05DE\u05DF\u05E0\u05E1\u05E2\u05E3\u05E4\u05E5\u05E6\u05E7\u05E8\u05E9" ++
      "\u05EA¢£¥₧ƒáíóúñÑªº¿⌐¬½¼¡«»░▒▓│┤╡╢╖╕╣║╗╝╜╛┐└┴┬├─┼╞╟╚╔╩╦╠═╬╧╨╤╥╙╘╒╓╫╪┘┌█▄▌▐▀αßΓπΣ" ++
      "σµτΦΘΩδ∞φε∩≡±≥≤⌠⌡÷≈°∙·√ⁿ²■\u00A0"),
 (["863", "cp863", "csibm863", "ibm863"],
    "ÇüéâÂà¶çêëèïî‗À§ÉÈÊôËÏûù¤ÔÜ¢£ÙÛƒ¦´óú¨¸³¯Î⌐¬½¼¾«»░▒▓│┤╡╢╖╕╣║╗╝╜╛┐└┴┬├─┼╞╟╚╔╩╦╠═╬╧" ++
      "╨╤╥╙╘╒╓╫╪┘┌█▄▌▐▀αßΓπΣσµτΦΘΩδ∞φε∩≡±≥≤⌠⌡÷≈°∙·√ⁿ²■\u00A0"),
 (["865", "cp865", "csibm865", "ibm865"],
    "ÇüéâäàåçêëèïîìÄÅÉæÆôöòûùÿÖÜø£Ø₧ƒáíóúñÑªº¿⌐¬½¼¡«¤░▒▓│┤╡╢╖╕╣║╗╝╜╛┐└┴┬├─┼╞╟╚╔╩╦╠═╬╧" ++
      "╨╤╥╙╘╒╓╫╪┘┌█▄▌▐▀αßΓπΣσµτΦΘΩδ∞φε∩≡±≥≤⌠⌡÷≈°∙·√ⁿ²■\u00A0"),
 (["866", "cp866", "csibm866", "ibm866"],
    "АБВГДЕЖЗИЙКЛМНОПРСТУФХЦЧШЩЪЫЬЭЮЯабвгдежзийклмноп░▒▓│┤╡╢╖╕╣║╗╝╜╛┐└┴┬├─┼╞╟╚╔╩╦╠═╬╧" ++
      "╨╤╥╙╘╒╓╫╪┘┌█▄▌▐▀рстуфхцчшщъыьэюяЁёЄєЇїЎў°∙·√№¤■\u00A0"),
 (["869", "cp869", "cp_gr", "csibm869", "ibm869"],
    "\uFFFD\uFFFD\uFFFD\uFFFD\uFFFD\uFFFDΆ\uFFFD·¬¦‘’Έ―ΉΊΪΌ\uFFFD\uFFFDΎΫ©Ώ²³ά£έήίϊΐό" ++
      "ύΑΒΓΔΕΖΗ½ΘΙ«»░▒▓│┤ΚΛΜΝ╣║╗╝ΞΟ┐└┴┬├─┼ΠΡ╚╔╩╦╠═╬ΣΤΥΦΧΨΩαβγ┘┌█▄δε▀ζηθικλμνξοπρσςτ΄" ++
      "\u00AD±υφχ§ψ΅°¨ωϋΰώ■\u00A0"),
 (["arabic", "asmo_708", "csisolatinarabic", "ecma_114", "iso8859_6", "iso_8859_6",
    "iso_8859_6_1987", "iso_ir_127"],
    "\u0080\u0081\u0082\u0083\u0084\u0085\u0086\u0087\u0088\u0089\u008A\u008B\u008C" ++
      "\u008D\u008E\u008F\u0090\u0091\u0092\u0093\u0094\u0095\u0096\u0097\u0098\u0099" ++
      "\u009A\u009B\u009C\u009D\u009E\u009F\u00A0\uFFFD\uFFFD\uFFFD¤\uFFFD\uFFFD\uFFFD" ++
      "\uFFFD\uFFFD\uFFFD\uFFFD،\u00AD\uFFFD\uFFFD\uFFFD\uFFFD\uFFFD\uFFFD\uFFFD\uFFFD" ++
      "\uFFFD\uFFFD\uFFFD\uFFFD\uFFFD\u061B\uFFFD\uFFFD\uFFFD\u061F\uFFFD\u0621\u0622" ++
      "\u0623\u0624\u0625\u0626\u0627\u0628\u0629\u062A\u062B\u062C\u062D\u062E\u062F" ++
      "\u0630\u0631\u0632\u0633\u0634\u0635\u0636\u0637\u0638\u0639\u063A\uFFFD\uFFFD" ++
      "\uFFFD\uFFFD\uFFFD\u0640\u0641\u0642\u0643\u0644\u0645\u0646\u0647\u0648\u0649" ++
      "\u064A\u064B\u064C\u064D\u064E\u064F\u0650\u0651\u0652\uFFFD\uFFFD\uFFFD\uFFFD" ++
      "\uFFFD\uFFFD\uFFFD\uFFFD\uFFFD\uFFFD\uFFFD\uFFFD\uFFFD"),
 (["cp1006"],
    "\u0080\u0081\u0082\u0083\u0084\u0085\u0086\u0087\u0088\u0089\u008A\u008B\u008C" ++
      "\u008D\u008E\u008F\u0090\u0091\u0092\u0093\u0094\u0095\u0096\u0097\u0098\u0099" ++
      "\u009A\u009B\u009C\u009D\u009E\u009F\u00A0۰۱۲۳۴۵۶۷۸۹،\u061B\u00AD\u061F\uFE81" ++
      "\uFE8D\uFE8E\uFE8E\uFE8F\uFE91\uFB56\uFB58\uFE93\uFE95\uFE97\uFB66\uFB68\uFE99" ++
      "\uFE9B\uFE9D\uFE9F\uFB7A\uFB7C\uFEA1\uFEA3\uFEA5\uFEA7\uFEA9\uFB84\uFEAB\uFEAD" ++
      "\uFB8C\uFEAF\uFB8A\uFEB1\uFEB3\uFEB5\uFEB7\uFEB9\uFEBB\uFEBD\uFEBF\uFEC1\uFEC5" ++
      "\uFEC9\uFECA\uFECB\uFECC\uFECD\uFECE\uFECF\uFED0\uFED1\uFED3\uFED5\uFED7\uFED9" ++
      "\uFEDB\uFB92\uFB94\uFEDD\uFEDF\uFEE0\uFEE1\uFEE3\uFB9E\uFEE5\uFEE7\uFE85\uFEED" ++
      "\uFBA6\uFBA8\uFBA9\uFBAA\uFE80\uFE89\uFE8A\uFE8B\uFEF1\uFEF2\uFEF3\uFBB0\uFBAE" ++
      "\uFE7C\uFE7D"),
 (["cp1051", "hp_roman8", "ibm1051", "r8", "roman8"],
    "\u0080\u0081\u0082\u0083\u0084\u0085\u0086\u0087\u0088\u0089\u008A\u008B\u008C" ++
      "\u008D\u008E\u008F\u0090\u0091\u0092\u0093\u0094\u0095\u0096\u0097\u0098\u0099" ++
      "\u009A\u009B\u009C\u009D\u009E\u009F\u00A0ÀÂÈÊËÎÏ´ˋˆ¨˜ÙÛ₤¯Ýý°ÇçÑñ¡¿¤£¥§ƒ¢âêôûáéó" ++
      "úàèòùäëöüÅîØÆåíøæÄìÖÜÉïßÔÁÃãÐðÍÌÓÒÕõŠšÚŸÿÞþ·µ¶¾—¼½ªº«■»±\uFFFD"),
 (["cp154", "csptcp154", "cyrillic_asian", "pt154", "ptcp154"],
    "ҖҒӮғ„…ҶҮҲүҠӢҢҚҺҸҗ‘’“”•–—ҳҷҡӣңқһҹ\u00A0ЎўЈӨҘҰ§Ё©Ә«¬ӯ®Ҝ°ұІіҙө¶·ё№ә»јҪҫҝАБВГДЕЖЗИЙК" ++
      "ЛМНОПРСТУФХЦЧШЩЪЫЬЭЮЯабвгдежзийклмнопрстуфхцчшщъыьэюя"),
 (["cp720"],
    "\u0080\u0081éâ\u0084à\u0086çêëèïî\u008D\u008E\u008F\u0090\u0651\u0652ô¤\u0640ûù" ++
      "\u0621\u0622\u0623\u0624£\u0625\u0626\u0627\u0628\u0629\u062A\u062B\u062C\u062D" ++
      "\u062E\u062F\u0630\u0631\u0632\u0633\u0634\u0635«»░▒▓│┤╡╢╖╕╣║╗╝╜╛┐└┴┬├─┼╞╟╚╔╩╦╠═" ++
      "╬╧╨╤╥╙╘╒╓╫╪┘┌█▄▌▐▀\u0636\u0637\u0638\u0639\u063A\u0641µ\u0642\u0643\u0644\u0645" ++
      "\u0646\u0647\u0648\u0649\u064A≡\u064B\u064C\u064D\u064E\u064F\u0650≈°∙·√ⁿ²■" ++
      "\u00A0"),
 (["cp737"],
    "ΑΒΓΔΕΖΗΘΙΚΛΜΝΞΟΠΡΣΤΥΦΧΨΩαβγδεζηθικλμνξοπρσςτυφχψ░▒▓│┤╡╢╖╕╣║╗╝╜╛┐└┴┬├─┼╞╟╚╔╩╦╠═╬╧" ++
      "╨╤╥╙╘╒╓╫╪┘┌█▄▌▐▀ωάέήϊίόύϋώΆΈΉΊΌΎΏ±≥≤ΪΫ÷≈°∙·√ⁿ²■\u00A0"),
 (["cp856"],
    "\u05D0\u05D1\u05D2\u05D3\u05D4\u05D5\u05D6\u05D7\u05D8\u05D9\u05DA\u05DB\u05DC" ++
      "\u05DD\u05DE\u05DF\u05E0\u05E1\u05E2\u05E3\u05E4\u05E5\u05E6\u05E7\u05E8\u05E9" ++
      "\u05EA\uFFFD£\uFFFD×\uFFFD\uFFFD\uFFFD\uFFFD\uFFFD\uFFFD\uFFFD\uFFFD\uFFFD\uFFFD" ++
      "®¬½¼\uFFFD«»░▒▓│┤\uFFFD\uFFFD\uFFFD©╣║╗╝¢¥┐└┴┬├─┼\uFFFD\uFFFD╚╔╩╦╠═╬¤\uFFFD" ++
      "\uFFFD\uFFFD\uFFFD\uFFFD\uFFFD\uFFFD\uFFFD\uFFFD┘┌█▄¦\uFFFD▀\uFFFD\uFFFD\uFFFD" ++
      "\uFFFD\uFFFD\uFFFDµ\uFFFD\uFFFD\uFFFD\uFFFD\uFFFD\uFFFD\uFFFD¯´\u00AD±‗¾¶§÷¸°¨·¹" ++
      "³²■\u00A0"),
 (["cp874"],
    "€\uFFFD\uFFFD\uFFFD\uFFFD…\uFFFD\uFFFD\uFFFD\uFFFD\uFFFD\uFFFD\uFFFD\uFFFD\uFFFD" ++
      "\uFFFD\uFFFD‘’“”•–—\uFFFD\uFFFD\uFFFD\uFFFD\uFFFD\uFFFD\uFFFD\uFFFD\u00A0กขฃคฅฆง" ++
      "จฉชซฌญฎฏฐฑฒณดตถทธนบปผฝพฟภมยรฤลฦวศษสหฬอฮฯะ\u0E31าำ\u0E34\u0E35\u0E36\u0E37\u0E38" ++
      "\u0E39\u0E3A\uFFFD\uFFFD\uFFFD\uFFFD฿เแโใไๅๆ\u0E47\u0E48\u0E49\u0E4A\u0E4B\u0E4C" ++
      "\u0E4D\u0E4E๏๐๑๒๓๔๕๖๗๘๙๚๛\uFFFD\uFFFD\uFFFD\uFFFD"),
 (["csisolatin2", "iso8859_2", "iso_8859_2", "iso_8859_2_1987", "iso_ir_101", "l2", "latin2"],
    "\u0080\u0081\u0082\u0083\u0084\u0085\u0086\u0087\u0088\u0089\u008A\u008B\u008C" ++
      "\u008D\u008E\u008F\u0090\u0091\u0092\u0093\u0094\u0095\u0096\u0097\u0098\u0099" ++
      "\u009A\u009B\u009C\u009D\u009E\u009F\u00A0Ą˘Ł¤ĽŚ§¨ŠŞŤŹ\u00ADŽŻ°ą˛ł´ľśˇ¸šşťź˝žżŔÁ" ++
      "ÂĂÄĹĆÇČÉĘËĚÍÎĎĐŃŇÓÔŐÖ×ŘŮÚŰÜÝŢßŕáâăäĺćçčéęëěíîďđńňóôőö÷řůúűüýţ˙"),
 (["csisolatin3", "iso8859_3", "iso_8859_3", "iso_8859_3_1988", "iso_ir_109", "l3", "latin3"],
    "\u0080\u0081\u0082\u0083\u0084\u0085\u0086\u0087\u0088\u0089\u008A\u008B\u008C" ++
      "\u008D\u008E\u008F\u0090\u0091\u0092\u0093\u0094\u0095\u0096\u0097\u0098\u0099" ++
      "\u009A\u009B\u009C\u009D\u009E\u009F\u00A0Ħ˘£¤\uFFFDĤ§¨İŞĞĴ\u00AD\uFFFDŻ°ħ²³´µĥ·" ++
      "¸ışğĵ½\uFFFDżÀÁÂ\uFFFDÄĊĈÇÈÉÊËÌÍÎÏ\uFFFDÑÒÓÔĠÖ×ĜÙÚÛÜŬŜßàáâ\uFFFDäċĉçèéêëìíîï" ++
      "\uFFFDñòóôġö÷ĝùúûüŭŝ˙"),
 (["csisolatin4", "iso8859_4", "iso_8859_4", "iso_8859_4_1988", "iso_ir_110", "l4", "latin4"],
    "\u0080\u0081\u0082\u0083\u0084\u0085\u0086\u0087\u0088\u0089\u008A\u008B\u008C" ++
      "\u008D\u008E\u008F\u0090\u0091\u0092\u0093\u0094\u0095\u0096\u0097\u0098\u0099" ++
      "\u009A\u009B\u009C\u009D\u009E\u009F\u00A0ĄĸŖ¤ĨĻ§¨ŠĒĢŦ\u00ADŽ¯°ą˛ŗ´ĩļˇ¸šēģŧŊžŋĀÁ" ++
      "ÂÃÄÅÆĮČÉĘËĖÍÎĪĐŅŌĶÔÕÖ×ØŲÚÛÜŨŪßāáâãäåæįčéęëėíîīđņōķôõö÷øųúûüũū˙"),
 (["csisolatin5", "iso8859_9", "iso_8859_9", "iso_8859_9_1989", "iso_ir_148", "l5", "latin5"],
    "\u0080\u0081\u0082\u0083\u0084\u0085\u0086\u0087\u0088\u0089\u008A\u008B\u008C" ++
      "\u008D\u008E\u008F\u0090\u0091\u0092\u0093\u0094\u0095\u0096\u0097\u0098\u0099" ++
      "\u009A\u009B\u009C\u009D\u009E\u009F\u00A0¡¢£¤¥¦§¨©ª«¬\u00AD®¯°±²³´µ¶·¸¹º»¼½¾¿ÀÁ" ++
      "ÂÃÄÅÆÇÈÉÊËÌÍÎÏĞÑÒÓÔÕÖ×ØÙÚÛÜİŞßàáâãäåæçèéêëìíîïğñòóôõö÷øùúûüışÿ"),
 (["csisolatin6", "iso8859_10", "iso_8859_10", "iso_8859_10_1992", "iso_ir_157", "l6", "latin6"],
    "\u0080\u0081\u0082\u0083\u0084\u0085\u0086\u0087\u0088\u0089\u008A\u008B\u008C" ++
      "\u008D\u008E\u008F\u0090\u0091\u0092\u0093\u0094\u0095\u0096\u0097\u0098\u0099" ++
      "\u009A\u009B\u009C\u009D\u009E\u009F\u00A0ĄĒĢĪĨĶ§ĻĐŠŦŽ\u00ADŪŊ°ąēģīĩķ·ļđšŧž―ūŋĀÁ" ++
      "ÂÃÄÅÆĮČÉĘËĖÍÎÏÐŅŌÓÔÕÖŨØŲÚÛÜÝÞßāáâãäåæįčéęëėíîïðņōóôõöũøųúûüýþĸ"),
 (["csisolatincyrillic", "cyrillic", "iso8859_5", "iso_8859_5", "iso_8859_5_1988", "iso_ir_144"],
    "\u0080\u0081\u0082\u0083\u0084\u0085\u0086\u0087\u0088\u0089\u008A\u008B\u008C" ++
      "\u008D\u008E\u008F\u0090\u0091\u0092\u0093\u0094\u0095\u0096\u0097\u0098\u0099" ++
      "\u009A\u009B\u009C\u009D\u009E\u009F\u00A0ЁЂЃЄЅІЇЈЉЊЋЌ\u00ADЎЏАБВГДЕЖЗИЙКЛМНОПРС" ++
      "ТУФХЦЧШЩЪЫЬЭЮЯабвгдежзийклмнопрстуфхцчшщъыьэюя№ёђѓєѕіїјљњћќ§ўџ"),
 (["csisolatingreek", "ecma_118", "elot_928", "greek", "greek8", "iso8859_7", "iso_8859_7",
    "iso_8859_7_1987", "iso_ir_126"],
    "\u0080\u0081\u0082\u0083\u0084\u0085\u0086\u0087\u0088\u0089\u008A\u008B\u008C" ++
      "\u008D\u008E\u008F\u0090\u0091\u0092\u0093\u0094\u0095\u0096\u0097\u0098\u0099" ++
      "\u009A\u009B\u009C\u009D\u009E\u009F\u00A0‘’£€₯¦§¨©ͺ«¬\u00AD\uFFFD―°±²³΄΅Ά·ΈΉΊ»Ό" ++
      "½ΎΏΐΑΒΓΔΕΖΗΘΙΚΛΜΝΞΟΠΡ\uFFFDΣΤΥΦΧΨΩΪΫάέήίΰαβγδεζηθικλμνξοπρςστυφχψωϊϋόύώ\uFFFD"),
 (["csisolatinhebrew", "hebrew", "iso8859_8", "iso_8859_8", "iso_8859_8_1988", "iso_ir_138"],
    "\u0080\u0081\u0082\u0083\u0084\u0085\u0086\u0087\u0088\u0089\u008A\u008B\u008C" ++
      "\u008D\u008E\u008F\u0090\u0091\u0092\u0093\u0094\u0095\u0096\u0097\u0098\u0099" ++
      "\u009A\u009B\u009C\u009D\u009E\u009F\u00A0\uFFFD¢£¤¥¦§¨©×«¬\u00AD®¯°±²³´µ¶·¸¹÷»¼" ++
      "½¾\uFFFD\uFFFD\uFFFD\uFFFD\uFFFD\uFFFD\uFFFD\uFFFD\uFFFD\uFFFD\uFFFD\uFFFD\uFFFD" ++
      "\uFFFD\uFFFD\uFFFD\uFFFD\uFFFD\uFFFD\uFFFD\uFFFD\uFFFD\uFFFD\uFFFD\uFFFD\uFFFD" ++
      "\uFFFD\uFFFD\uFFFD\uFFFD\uFFFD\uFFFD‗\u05D0\u05D1\u05D2\u05D3\u05D4\u05D5\u05D6" ++
      "\u05D7\u05D8\u05D9\u05DA\u05DB\u05DC\u05DD\u05DE\u05DF\u05E0\u05E1\u05E2\u05E3" ++
      "\u05E4\u05E5\u05E6\u05E7\u05E8\u05E9\u05EA\uFFFD\uFFFD\u200E\u200F\uFFFD"),
 (["cskoi8r", "koi8_r"],
    "─│┌┐└┘├┤┬┴┼▀▄█▌▐░▒▓⌠■∙√≈≤≥\u00A0⌡°²·÷═║╒ё╓╔╕╖╗╘╙╚╛╜╝╞╟╠╡Ё╢╣╤╥╦╧╨╩╪╫╬©юабцдефгхий" ++
      "клмнопярстужвьызшэщчъЮАБЦДЕФГХИЙКЛМНОПЯРСТУЖВЬЫЗШЭЩЧЪ"),
 (["iso8859_11", "iso_8859_11", "iso_8859_11_2001", "thai"],
    "\u0080\u0081\u0082\u0083\u0084\u0085\u0086\u0087\u0088\u0089\u008A\u008B\u008C" ++
      "\u008D\u008E\u008F\u0090\u0091\u0092\u0093\u0094\u0095\u0096\u0097\u0098\u0099" ++
      "\u009A\u009B\u009C\u009D\u009E\u009F\u00A0กขฃคฅฆงจฉชซฌญฎฏฐฑฒณดตถทธนบปผฝพฟภมยรฤลฦ" ++
      "วศษสหฬอฮฯะ\u0E31าำ\u0E34\u0E35\u0E36\u0E37\u0E38\u0E39\u0E3A\uFFFD\uFFFD\uFFFD" ++
      "\uFFFD฿เแโใไๅๆ\u0E47\u0E48\u0E49\u0E4A\u0E4B\u0E4C\u0E4D\u0E4E๏๐๑๒๓๔๕๖๗๘๙๚๛" ++
      "\uFFFD\uFFFD\uFFFD\uFFFD"),
 (["iso8859_13", "iso_8859_13", "l7", "latin7"],
    "\u0080\u0081\u0082\u0083\u0084\u0085\u0086\u0087\u0088\u0089\u008A\u008B\u008C" ++
      "\u008D\u008E\u008F\u0090\u0091\u0092\u0093\u0094\u0095\u0096\u0097\u0098\u0099" ++
      "\u009A\u009B\u009C\u009D\u009E\u009F\u00A0”¢£¤„¦§Ø©Ŗ«¬\u00AD®Æ°±²³“µ¶·ø¹ŗ»¼½¾æĄĮ" ++
      "ĀĆÄÅĘĒČÉŹĖĢĶĪĻŠŃŅÓŌÕÖ×ŲŁŚŪÜŻŽßąįāćäåęēčéźėģķīļšńņóōõö÷ųłśūüżž’"),
 (["iso8859_14", "iso_8859_14", "iso_8859_14_1998", "iso_celtic", "iso_ir_199", "l8", "latin8"],
    "\u0080\u0081\u0082\u0083\u0084\u0085\u0086\u0087\u0088\u0089\u008A\u008B\u008C" ++
      "\u008D\u008E\u008F\u0090\u0091\u0092\u0093\u0094\u0095\u0096\u0097\u0098\u0099" ++
      "\u009A\u009B\u009C\u009D\u009E\u009F\u00A0Ḃḃ£ĊċḊ§Ẁ©ẂḋỲ\u00AD®ŸḞḟĠġṀṁ¶ṖẁṗẃṠỳẄẅṡÀÁ" ++
      "ÂÃÄÅÆÇÈÉÊËÌÍÎÏŴÑÒÓÔÕÖṪØÙÚÛÜÝŶßàáâãäåæçèéêëìíîïŵñòóôõöṫøùúûüýŷÿ"),
 (["iso8859_15", "iso_8859_15", "l9", "latin9"],
    "\u0080\u0081\u0082\u0083\u0084\u0085\u0086\u0087\u0088\u0089\u008A\u008B\u008C" ++
      "\u008D\u008E\u008F\u0090\u0091\u0092\u0093\u0094\u0095\u0096\u0097\u0098\u0099" ++
      "\u009A\u009B\u009C\u009D\u009E\u009F\u00A0¡¢£€¥Š§š©ª«¬\u00AD®¯°±²³Žµ¶·ž¹º»ŒœŸ¿ÀÁ" ++
      "ÂÃÄÅÆÇÈÉÊËÌÍÎÏÐÑÒÓÔÕÖ×ØÙÚÛÜÝÞßàáâãäåæçèéêëìíîïðñòóôõö÷øùúûüýþÿ"),
 (["iso8859_16", "iso_8859_16", "iso_8859_16_2001", "iso_ir_226", "l10", "latin10"],
    "\u0080\u0081\u0082\u0083\u0084\u0085\u0086\u0087\u0088\u0089\u008A\u008B\u008C" ++
      "\u008D\u008E\u008F\u0090\u0091\u0092\u0093\u0094\u0095\u0096\u0097\u0098\u0099" ++
      "\u009A\u009B\u009C\u009D\u009E\u009F\u00A0ĄąŁ€„Š§š©Ș«Ź\u00ADźŻ°±ČłŽ”¶·žčș»ŒœŸżÀÁ" ++
      "ÂĂÄĆÆÇÈÉÊËÌÍÎÏĐŃÒÓÔŐÖŚŰÙÚÛÜĘȚßàáâăäćæçèéêëìíîïđńòóôőöśűùúûüęțÿ"),
 (["iso_ir_166", "tis620", "tis_620", "tis_620_0", "tis_620_2529_0", "tis_620_2529_1"],
    "\u0080\u0081\u0082\u0083\u0084\u0085\u0086\u0087\u0088\u0089\u008A\u008B\u008C" ++
      "\u008D\u008E\u008F\u0090\u0091\u0092\u0093\u0094\u0095\u0096\u0097\u0098\u0099" ++
      "\u009A\u009B\u009C\u009D\u009E\u009F\uFFFDกขฃคฅฆงจฉชซฌญฎฏฐฑฒณดตถทธนบปผฝพฟภมยรฤลฦ" ++
      "วศษสหฬอฮฯะ\u0E31าำ\u0E34\u0E35\u0E36\u0E37\u0E38\u0E39\u0E3A\uFFFD\uFFFD\uFFFD" ++
      "\uFFFD฿เแโใไๅๆ\u0E47\u0E48\u0E49\u0E4A\u0E4B\u0E4C\u0E4D\u0E4E๏๐๑๒๓๔๕๖๗๘๙๚๛" ++
      "\uFFFD\uFFFD\uFFFD\uFFFD"),
 (["koi8_t"],
    "қғ‚Ғ„…†‡\uFFFD‰ҳ‹ҲҷҶ\uFFFDҚ‘’“”•–—\uFFFD™\uFFFD›\uFFFD\uFFFD\uFFFD\uFFFD\uFFFDӯӮ" ++
      "ё¤ӣ¦§\uFFFD\uFFFD\uFFFD«¬\u00AD®\uFFFD°±²Ё\uFFFDӢ¶·\uFFFD№\uFFFD»\uFFFD\uFFFD" ++
      "\uFFFD©юабцдефгхийклмнопярстужвьызшэщчъЮАБЦДЕФГХИЙКЛМНОПЯРСТУЖВЬЫЗШЭЩЧЪ"),
 (["koi8_u"],
    "─│┌┐└┘├┤┬┴┼▀▄█▌▐░▒▓⌠■∙√≈≤≥\u00A0⌡°²·÷═║╒ёє╔ії╗╘╙╚╛ґ╝╞╟╠╡ЁЄ╣ІЇ╦╧╨╩╪Ґ╬©юабцдефгхий" ++
      "клмнопярстужвьызшэщчъЮАБЦДЕФГХИЙКЛМНОПЯРСТУЖВЬЫЗШЭЩЧЪ"),
 (["kz1048", "kz_1048", "rk1048", "strk1048_2002"],
    "ЂЃ‚ѓ„…†‡€‰Љ‹ЊҚҺЏђ‘’“”•–—\uFFFD™љ›њқһџ\u00A0ҰұӘ¤Ө¦§Ё©Ғ«¬\u00AD®Ү°±Ііөµ¶·ё№ғ»әҢңүА" ++
      "БВГДЕЖЗИЙКЛМНОПРСТУФХЦЧШЩЪЫЬЭЮЯабвгдежзийклмнопрстуфхцчшщъыьэюя"),
 (["mac_centeuro", "mac_latin2", "maccentraleurope", "maclatin2"],
    "ÄĀāÉĄÖÜáąČäčĆćéŹźĎíďĒēĖóėôöõúĚěü†°Ę£§•¶ß®©™ę¨≠ģĮįĪ≤≥īĶ∂∑łĻļĽľĹĺŅņŃ¬√ńŇ∆«»…\u00A0" ++
      "ňŐÕőŌ–—“”‘’÷◊ōŔŕŘ‹›řŖŗŠ‚„šŚśÁŤťÍŽžŪÓÔūŮÚůŰűŲųÝýķŻŁżĢˇ"),
 (["mac_croatian"],
    "ÄÅÇÉÑÖÜáàâäãåçéèêëíìîïñóòôöõúùûü†°¢£§•¶ß®Š™´¨≠ŽØ∞±≤≥∆µ∂∑∏š∫ªºΩžø¿¡¬√ƒ≈Ć«Č…\u00A0" ++
      "ÀÃÕŒœĐ—“”‘’÷◊\uF8FF©⁄€‹›Æ»–·‚„‰ÂćÁčÈÍÎÏÌÓÔđÒÚÛÙıˆ˜¯πË˚¸Êæˇ"),
 (["mac_cyrillic", "maccyrillic"],
    "АБВГДЕЖЗИЙКЛМНОПРСТУФХЦЧШЩЪЫЬЭЮЯ†°Ґ£§•¶І®©™Ђђ≠Ѓѓ∞±≤≥іµґЈЄєЇїЉљЊњјЅ¬√ƒ≈∆«»…\u00A0" ++
      "ЋћЌќѕ–—“”‘’÷„ЎўЏџ№Ёёяабвгдежзийклмнопрстуфхцчшщъыьэю€"),
 (["mac_greek", "macgreek"],
    "Ä¹²É³ÖÜ΅àâä΄¨çéèêë£™îï•½‰ôö¦€ùûü†ΓΔΘΛΞΠß®©ΣΪ§≠°·Α±≤≥¥ΒΕΖΗΙΚΜΦΫΨΩάΝ¬ΟΡ≈Τ«»…\u00A0" ++
      "ΥΧΆΈœ–―“”‘’÷ΉΊΌΎέήίόΏύαβψδεφγηιξκλμνοπώρστθωςχυζϊϋΐΰ\u00AD"),
 (["mac_iceland", "maciceland"],
    "ÄÅÇÉÑÖÜáàâäãåçéèêëíìîïñóòôöõúùûüÝ°¢£§•¶ß®©™´¨≠ÆØ∞±≤≥¥µ∂∑∏π∫ªºΩæø¿¡¬√ƒ≈∆«»…\u00A0" ++
      "ÀÃÕŒœ–—“”‘’÷◊ÿŸ⁄€ÐðÞþý·‚„‰ÂÊÁËÈÍÎÏÌÓÔ\uF8FFÒÚÛÙıˆ˜¯˘˙˚¸˝˛ˇ"),
 (["mac_roman", "macintosh", "macroman"],
    "ÄÅÇÉÑÖÜáàâäãåçéèêëíìîïñóòôöõúùûü†°¢£§•¶ß®©™´¨≠ÆØ∞±≤≥¥µ∂∑∏π∫ªºΩæø¿¡¬√ƒ≈∆«»…\u00A0" ++
      "ÀÃÕŒœ–—“”‘’÷◊ÿŸ⁄€‹›ﬁﬂ‡·‚„‰ÂÊÁËÈÍÎÏÌÓÔ\uF8FFÒÚÛÙıˆ˜¯˘˙˚¸˝˛ˇ"),
 (["mac_romanian"],
    "ÄÅÇÉÑÖÜáàâäãåçéèêëíìîïñóòôöõúùûü†°¢£§•¶ß®©™´¨≠ĂȘ∞±≤≥¥µ∂∑∏π∫ªºΩăș¿¡¬√ƒ≈∆«»…\u00A0" ++
      "ÀÃÕŒœ–—“”‘’÷◊ÿŸ⁄€‹›Țț‡·‚„‰ÂÊÁËÈÍÎÏÌÓÔ\uF8FFÒÚÛÙıˆ˜¯˘˙˚¸˝˛ˇ"),
 (["mac_turkish", "macturkish"],
    "ÄÅÇÉÑÖÜáàâäãåçéèêëíìîïñóòôöõúùûü†°¢£§•¶ß®©™´¨≠ÆØ∞±≤≥¥µ∂∑∏π∫ªºΩæø¿¡¬√ƒ≈∆«»…\u00A0" ++
      "ÀÃÕŒœ–—“”‘’÷◊ÿŸĞğİıŞş‡·‚„‰ÂÊÁËÈÍÎÏÌÓÔ\uF8FFÒÚÛÙ\uF8A0ˆ˜¯˘˙˚¸˝˛ˇ"),
 (["palmos"],
    "€\u0081‚ƒ„…†‡ˆ‰Š‹Œ♦♣♥♠‘’“”•–—˜™š\u009Bœ\u009D\u009EŸ\u00A0¡¢£¤¥¦§¨©ª«¬\u00AD®¯°±" ++
      "²³´µ¶·¸¹º»¼½¾¿ÀÁÂÃÄÅÆÇÈÉÊËÌÍÎÏÐÑÒÓÔÕÖ×ØÙÚÛÜÝÞßàáâãäåæçèéêëìíîïðñòóôõö÷øùúûüýþÿ")]

/-- The name of a charset in small letters, with one underscore for every run of other signs. -/
def normalizeFrom (pending : Bool) : List Char → List Char
  | [] => []
  | character :: rest =>
    if character.isAlphanum || character = '.' then
      (if pending then ['_'] else []) ++ character.toLower :: normalizeFrom false rest
    else normalizeFrom true rest

/-- The charset of a name as it is listed. -/
def ofListed (name : String) : Charset :=
  if latinNames.contains name then .narrow .latin
  else if asciiNames.contains name then .narrow .ascii
  else if wideNames.contains name then .wide
  else if notAsciiNames.contains name then .notAscii
  else match upperHalves.find? fun (names, _) => names.contains name with
    | some (_, upper) => .narrow (.single upper.toList)
    | none => .unknown

/-- The listed names under which a charset is kept. The others lead to one of these; only for such an
alias may a point be written where it has an underscore. -/
def keptNames : List String :=
  ["euc_jis_2004", "euc_jisx0213", "euc_jp", "euc_kr", "hp_roman8", "iso2022_jp",
    "iso2022_jp_1", "iso2022_jp_2", "iso2022_jp_2004", "iso2022_jp_3", "iso2022_jp_ext",
    "iso2022_kr", "iso8859_10", "iso8859_11", "iso8859_13", "iso8859_14", "iso8859_15",
    "iso8859_16", "iso8859_2", "iso8859_3", "iso8859_4", "iso8859_5", "iso8859_6", "iso8859_7",
    "iso8859_8", "iso8859_9", "koi8_r", "koi8_t", "koi8_u", "latin_1", "mac_arabic",
    "mac_croatian", "mac_cyrillic", "mac_farsi", "mac_greek", "mac_iceland", "mac_latin2",
    "mac_roman", "mac_romanian", "mac_turkish", "raw_unicode_escape", "shift_jis",
    "shift_jis_2004", "shift_jisx0213", "tis_620", "unicode_escape", "utf_16", "utf_16_be",
    "utf_16_le", "utf_32", "utf_32_be", "utf_32_le", "utf_7", "utf_8", "utf_8_sig"]

/-- The charset that a declared name stands for. -/
def ofName (name : List Char) : Charset :=
  let normal := normalizeFrom false name
  match ofListed (String.ofList normal) with
  | .unknown =>
    let pointless := String.ofList (normal.map fun character =>
      if character = '.' then '_' else character)
    if keptNames.contains pointless then .unknown else ofListed pointless
  | charset => charset

end Charset

end ApiDoc.Xml
