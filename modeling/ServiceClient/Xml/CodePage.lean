import ServiceClient.Text.Utf8

/-!
The encodings that a document may name. Besides those that every reader of documents knows, these
are the ones that have one octet for each character and ASCII in their first half; the second half
is told by the encoding's page.
-/

namespace ServiceClient.Xml

/-- Why octets are no document. -/
inductive ReadError where
  | notWellFormed
  /-- No encoding has the name that the document gives. -/
  | unknownEncoding
  /-- The encoding has more than one octet for some characters. -/
  | multiByteEncoding
  /-- The encoding of this name does not read the octets of which its page would be made. -/
  | noPage (name : String)
  deriving DecidableEq, Repr

/-- The class of an error. -/
def ReadError.kind : ReadError → String
  | .notWellFormed => "ParseError"
  | .unknownEncoding => "LookupError"
  | .multiByteEncoding => "ValueError"
  | .noPage name => if name = "punycode" then "UnicodeDecodeError" else "UnicodeError"

/-- The encodings of documents. -/
inductive Encoding where
  | utf8
  | utf16 (order : Text.ByteOrder)
  /-- Each octet is the character of its number. -/
  | latin1
  /-- As `latin1`, but only the first half is allowed. -/
  | ascii
  /-- As `ascii`, but without the tilde. -/
  | asciiWithoutTilde
  /-- The first half is as in `ascii`; the second half is told, with U+FFFD for no character. -/
  | page (high : String)
  deriving DecidableEq

namespace Encoding

/-- The character of an octet in a page. -/
def pageChar? (high : List Char) (b : UInt8) : Option Char :=
  if b.toNat < 128 then some (Char.ofNat b.toNat)
  else high[b.toNat - 128]?.filter (· != Text.replacement)

/-- The characters of octets; none if they are malformed. -/
def decode? (e : Encoding) (bs : Octets) : Option (List Char) :=
  match e with
  | .utf8 => (Text.utf8Decode? bs).map String.toList
  | .latin1 => some (bs.map fun b => Char.ofNat b.toNat)
  | .ascii => bs.mapM (pageChar? [])
  | .asciiWithoutTilde => if bs.contains 0x7E then none else bs.mapM (pageChar? [])
  | .page high => bs.mapM (pageChar? high.toList)
  | .utf16 order => do
    let units ← Text.units16? order bs
    guard (!Text.hasLoneSurrogate units)
    return Text.utf16Characters units

end Encoding

namespace CodePage

/-- Characters whose numbers follow each other. -/
def run (first count : Nat) : String :=
  String.ofList ((List.range' first count).map Char.ofNat)

/-- The place of octets that stand for no character. -/
def gap (count : Nat) : String := String.ofList (List.replicate count Text.replacement)

/-- Lines and blocks, which have the same octets in many pages. -/
def boxes : String := "░▒▓│┤╡╢╖╕╣║╗╝╜╛┐└┴┬├─┼╞╟╚╔╩╦╠═╬╧╨╤╥╙╘╒╓╫╪┘┌█▄▌▐▀"

/-- The pages, each with the names of its encoding: the proper one first. -/
def pages : List (List String × String) := [
  (["cp1006"],
    run 0x80 33 ++ run 0x6F0 10 ++
    "،\u061B\u00AD\u061F\uFE81\uFE8D\uFE8E\uFE8E\uFE8F\uFE91\uFB56\uFB58\uFE93\uFE95" ++
    "\uFE97\uFB66\uFB68\uFE99\uFE9B\uFE9D\uFE9F\uFB7A\uFB7C\uFEA1\uFEA3\uFEA5\uFEA7\uFEA9" ++
    "\uFB84\uFEAB\uFEAD\uFB8C\uFEAF\uFB8A\uFEB1\uFEB3\uFEB5\uFEB7\uFEB9\uFEBB\uFEBD\uFEBF" ++
    "\uFEC1\uFEC5\uFEC9\uFECA\uFECB\uFECC\uFECD\uFECE\uFECF\uFED0\uFED1\uFED3\uFED5\uFED7" ++
    "\uFED9\uFEDB\uFB92\uFB94\uFEDD\uFEDF\uFEE0\uFEE1\uFEE3\uFB9E\uFEE5\uFEE7\uFE85\uFEED" ++
    "\uFBA6\uFBA8\uFBA9\uFBAA\uFE80\uFE89\uFE8A\uFE8B\uFEF1\uFEF2\uFEF3\uFBB0\uFBAE\uFE7C" ++
    "\uFE7D"),
  (["cp1125", "cp866u", "ibm1125", "ruscii"],
    run 0x410 48 ++ boxes ++ run 0x440 16 ++ "ЁёҐґЄєІіЇї·√№¤■\u00A0"),
  (["cp1250", "windows_1250"],
    "€\uFFFD‚\uFFFD„…†‡\uFFFD‰Š‹ŚŤŽŹ\uFFFD‘’“”•–—\uFFFD™š›śťžź\u00A0ˇ˘Ł¤Ą¦§¨©Ş«¬\u00AD®Ż°" ++
    "±˛ł´µ¶·¸ąş»Ľ˝ľżŔÁÂĂÄĹĆÇČÉĘËĚÍÎĎĐŃŇÓÔŐÖ×ŘŮÚŰÜÝŢßŕáâăäĺćçčéęëěíîďđńňóôőö÷řůúűüýţ˙"),
  (["cp1251", "windows_1251"],
    "ЂЃ‚ѓ„…†‡€‰Љ‹ЊЌЋЏђ‘’“”•–—\uFFFD™љ›њќћџ\u00A0ЎўЈ¤Ґ¦§Ё©Є«¬\u00AD®Ї°±Ііґµ¶·ё№є»јЅѕї" ++
    run 0x410 64),
  (["cp1252", "windows_1252"],
    "€\uFFFD‚ƒ„…†‡ˆ‰Š‹Œ\uFFFDŽ\uFFFD\uFFFD‘’“”•–—˜™š›œ\uFFFDžŸ" ++ run 0xA0 96),
  (["cp1253", "windows_1253"],
    "€\uFFFD‚ƒ„…†‡\uFFFD‰\uFFFD‹\uFFFD\uFFFD\uFFFD\uFFFD\uFFFD‘’“”•–—\uFFFD™\uFFFD›\uFFFD" ++
    "\uFFFD\uFFFD\uFFFD\u00A0΅Ά£¤¥¦§¨©\uFFFD«¬\u00AD®―°±²³΄µ¶·ΈΉΊ»Ό½" ++ run 0x38E 20 ++ "\uFFFD" ++
    run 0x3A3 44 ++ "\uFFFD"),
  (["cp1254", "windows_1254"],
    "€\uFFFD‚ƒ„…†‡ˆ‰Š‹Œ\uFFFD\uFFFD\uFFFD\uFFFD‘’“”•–—˜™š›œ\uFFFD\uFFFDŸ" ++ run 0xA0 48 ++ "Ğ" ++
    run 0xD1 12 ++ "İŞ" ++ run 0xDF 17 ++ "ğ" ++ run 0xF1 12 ++ "ışÿ"),
  (["cp1255", "windows_1255"],
    "€\uFFFD‚ƒ„…†‡ˆ‰\uFFFD‹\uFFFD\uFFFD\uFFFD\uFFFD\uFFFD‘’“”•–—˜™\uFFFD›\uFFFD\uFFFD" ++
    "\uFFFD\uFFFD\u00A0¡¢£₪¥¦§¨©×" ++ run 0xAB 15 ++ "÷»¼½¾¿" ++ run 0x5B0 10 ++
    "\uFFFD\u05BB\u05BC\u05BD\u05BE\u05BF\u05C0\u05C1\u05C2\u05C3\u05F0\u05F1\u05F2\u05F3" ++
    "\u05F4\uFFFD\uFFFD\uFFFD\uFFFD\uFFFD\uFFFD\uFFFD" ++ run 0x5D0 27 ++
    "\uFFFD\uFFFD\u200E\u200F\uFFFD"),
  (["cp1256", "windows_1256"],
    "€\u067E‚ƒ„…†‡ˆ‰\u0679‹Œ\u0686\u0698\u0688\u06AF‘’“”•–—\u06A9™\u0691›œ\u200C\u200D" ++
    "\u06BA\u00A0،¢£¤¥¦§¨©\u06BE" ++ run 0xAB 15 ++ "\u061B»¼½¾\u061F\u06C1" ++ run 0x621 22 ++
    "×\u0637\u0638\u0639\u063A\u0640\u0641\u0642\u0643à\u0644â\u0645\u0646\u0647\u0648çèé" ++
    "êë\u0649\u064Aîï\u064B\u064C\u064D\u064Eô\u064F\u0650÷\u0651ù\u0652ûü\u200E\u200F" ++
    "\u06D2"),
  (["cp1257", "windows_1257"],
    "€\uFFFD‚\uFFFD„…†‡\uFFFD‰\uFFFD‹\uFFFD¨ˇ¸\uFFFD‘’“”•–—\uFFFD™\uFFFD›\uFFFD¯˛\uFFFD" ++
    "\u00A0\uFFFD¢£¤\uFFFD¦§Ø©Ŗ«¬\u00AD®Æ°±²³´µ¶·ø¹ŗ»¼½¾æĄĮĀĆÄÅĘĒČÉŹĖĢĶĪĻŠŃŅÓŌÕÖ×ŲŁŚŪÜŻŽß" ++
    "ąįāćäåęēčéźėģķīļšńņóōõö÷ųłśūüżž˙"),
  (["cp1258", "windows_1258"],
    "€\uFFFD‚ƒ„…†‡ˆ‰\uFFFD‹Œ\uFFFD\uFFFD\uFFFD\uFFFD‘’“”•–—˜™\uFFFD›œ\uFFFD\uFFFDŸ" ++
    run 0xA0 35 ++
    "ĂÄÅÆÇÈÉÊË\u0300ÍÎÏĐÑ\u0309ÓÔƠÖ×ØÙÚÛÜƯ\u0303ßàáâăäåæçèéêë\u0301íîïđñ\u0323óôơö÷øùúûüư" ++ "₫ÿ"),
  (["cp437", "cspc8codepage437", "ibm437"],
    "ÇüéâäàåçêëèïîìÄÅÉæÆôöòûùÿÖÜ¢£¥₧ƒáíóúñÑªº¿⌐¬½¼¡«»" ++ boxes ++
    "αßΓπΣσµτΦΘΩδ∞φε∩≡±≥≤⌠⌡÷≈°∙·√ⁿ²■\u00A0"),
  (["cp720"],
    "\u0080\u0081éâ\u0084à\u0086çêëèïî\u008D\u008E\u008F\u0090\u0651\u0652ô¤\u0640ûù" ++
    "\u0621\u0622\u0623\u0624£" ++ run 0x625 17 ++ "«»" ++ boxes ++
    "\u0636\u0637\u0638\u0639\u063A\u0641µ\u0642\u0643\u0644\u0645\u0646\u0647\u0648" ++
    "\u0649\u064A≡\u064B\u064C\u064D\u064E\u064F\u0650≈°∙·√ⁿ²■\u00A0"),
  (["cp737"],
    run 0x391 17 ++ "ΣΤΥΦΧΨΩ" ++ run 0x3B1 17 ++ "σςτυφχψ" ++ boxes ++
    "ωάέήϊίόύϋώΆΈΉΊΌΎΏ±≥≤ΪΫ÷≈°∙·√ⁿ²■\u00A0"),
  (["cp775", "cspc775baltic", "ibm775"],
    "ĆüéāäģåćłēŖŗīŹÄÅÉæÆōöĢ¢ŚśÖÜø£Ø×¤ĀĪóŻżź”¦©®¬½¼Ł«»░▒▓│┤ĄČĘĖ╣║╗╝ĮŠ┐└┴┬├─┼ŲŪ╚╔╩╦╠═╬Žąčęė" ++
    "įšųūž┘┌█▄▌▐▀ÓßŌŃõÕµńĶķĻļņĒŅ’\u00AD±“¾¶§÷„°∙·¹³²■\u00A0"),
  (["cp850", "cspc850multilingual", "ibm850"],
    "ÇüéâäàåçêëèïîìÄÅÉæÆôöòûùÿÖÜø£Ø×ƒáíóúñÑªº¿®¬½¼¡«»░▒▓│┤ÁÂÀ©╣║╗╝¢¥┐└┴┬├─┼ãÃ╚╔╩╦╠═╬¤ðÐÊË" ++
    "ÈıÍÎÏ┘┌█▄¦Ì▀ÓßÔÒõÕµþÞÚÛÙýÝ¯´\u00AD±‗¾¶§÷¸°¨·¹³²■\u00A0"),
  (["cp852", "cspcp852", "ibm852"],
    "ÇüéâäůćçłëŐőîŹÄĆÉĹĺôöĽľŚśÖÜŤťŁ×čáíóúĄąŽžĘę¬źČş«»░▒▓│┤ÁÂĚŞ╣║╗╝Żż┐└┴┬├─┼Ăă╚╔╩╦╠═╬¤đĐĎË" ++
    "ďŇÍÎě┘┌█▄ŢŮ▀ÓßÔŃńňŠšŔÚŕŰýÝţ´\u00AD˝˛ˇ˘§÷¸°¨˙űŘř■\u00A0"),
  (["cp855", "csibm855", "ibm855"],
    "ђЂѓЃёЁєЄѕЅіІїЇјЈљЉњЊћЋќЌўЎџЏюЮъЪаАбБцЦдДеЕфФгГ«»░▒▓│┤хХиИ╣║╗╝йЙ┐└┴┬├─┼кК╚╔╩╦╠═╬¤лЛмМ" ++
    "нНоОп┘┌█▄Пя▀ЯрРсСтТуУжЖвВьЬ№\u00ADыЫзЗшШэЭщЩчЧ§■\u00A0"),
  (["cp856"],
    run 0x5D0 27 ++ "\uFFFD£\uFFFD×" ++ gap 10 ++
    "®¬½¼\uFFFD«»░▒▓│┤\uFFFD\uFFFD\uFFFD©╣║╗╝¢¥┐└┴┬├─┼\uFFFD\uFFFD╚╔╩╦╠═╬¤" ++ gap 9 ++
    "┘┌█▄¦\uFFFD▀\uFFFD\uFFFD\uFFFD\uFFFD\uFFFD\uFFFDµ\uFFFD\uFFFD\uFFFD\uFFFD\uFFFD" ++
    "\uFFFD\uFFFD¯´\u00AD±‗¾¶§÷¸°¨·¹³²■\u00A0"),
  (["cp857", "csibm857", "ibm857"],
    "ÇüéâäàåçêëèïîıÄÅÉæÆôöòûùİÖÜø£ØŞşáíóúñÑĞğ¿®¬½¼¡«»░▒▓│┤ÁÂÀ©╣║╗╝¢¥┐└┴┬├─┼ãÃ╚╔╩╦╠═╬¤ºªÊË" ++
    "È\uFFFDÍÎÏ┘┌█▄¦Ì▀ÓßÔÒõÕµ\uFFFD×ÚÛÙìÿ¯´\u00AD±\uFFFD¾¶§÷¸°¨·¹³²■\u00A0"),
  (["cp858", "csibm858", "ibm858"],
    "ÇüéâäàåçêëèïîìÄÅÉæÆôöòûùÿÖÜø£Ø×ƒáíóúñÑªº¿®¬½¼¡«»░▒▓│┤ÁÂÀ©╣║╗╝¢¥┐└┴┬├─┼ãÃ╚╔╩╦╠═╬¤ðÐÊË" ++
    "È€ÍÎÏ┘┌█▄¦Ì▀ÓßÔÒõÕµþÞÚÛÙýÝ¯´\u00AD±‗¾¶§÷¸°¨·¹³²■\u00A0"),
  (["cp860", "csibm860", "ibm860"],
    "ÇüéâãàÁçêÊèÍÔìÃÂÉÀÈôõòÚùÌÕÜ¢£Ù₧ÓáíóúñÑªº¿Ò¬½¼¡«»" ++ boxes ++
    "αßΓπΣσµτΦΘΩδ∞φε∩≡±≥≤⌠⌡÷≈°∙·√ⁿ²■\u00A0"),
  (["cp861", "cp_is", "csibm861", "ibm861"],
    "ÇüéâäàåçêëèÐðÞÄÅÉæÆôöþûÝýÖÜø£Ø₧ƒáíóúÁÍÓÚ¿⌐¬½¼¡«»" ++ boxes ++
    "αßΓπΣσµτΦΘΩδ∞φε∩≡±≥≤⌠⌡÷≈°∙·√ⁿ²■\u00A0"),
  (["cp862", "cspc862latinhebrew", "ibm862"],
    run 0x5D0 27 ++ "¢£¥₧ƒáíóúñÑªº¿⌐¬½¼¡«»" ++ boxes ++ "αßΓπΣσµτΦΘΩδ∞φε∩≡±≥≤⌠⌡÷≈°∙·√ⁿ²■\u00A0"),
  (["cp863", "csibm863", "ibm863"],
    "ÇüéâÂà¶çêëèïî‗À§ÉÈÊôËÏûù¤ÔÜ¢£ÙÛƒ¦´óú¨¸³¯Î⌐¬½¼¾«»" ++ boxes ++
    "αßΓπΣσµτΦΘΩδ∞φε∩≡±≥≤⌠⌡÷≈°∙·√ⁿ²■\u00A0"),
  (["cp865", "csibm865", "ibm865"],
    "ÇüéâäàåçêëèïîìÄÅÉæÆôöòûùÿÖÜø£Ø₧ƒáíóúñÑªº¿⌐¬½¼¡«¤" ++ boxes ++
    "αßΓπΣσµτΦΘΩδ∞φε∩≡±≥≤⌠⌡÷≈°∙·√ⁿ²■\u00A0"),
  (["cp866", "csibm866", "ibm866"],
    run 0x410 48 ++ boxes ++ run 0x440 16 ++ "ЁёЄєЇїЎў°∙·√№¤■\u00A0"),
  (["cp869", "cp_gr", "csibm869", "ibm869"],
    "\uFFFD\uFFFD\uFFFD\uFFFD\uFFFD\uFFFDΆ\uFFFD·¬¦‘’Έ―ΉΊΪΌ\uFFFD\uFFFDΎΫ©Ώ²³ά£έήίϊΐόύΑΒΓ" ++
    "ΔΕΖΗ½ΘΙ«»░▒▓│┤ΚΛΜΝ╣║╗╝ΞΟ┐└┴┬├─┼ΠΡ╚╔╩╦╠═╬ΣΤΥΦΧΨΩαβγ┘┌█▄δε▀" ++ run 0x3B6 12 ++
    "σςτ΄\u00AD±υφχ§ψ΅°¨ωϋΰώ■\u00A0"),
  (["cp874"],
    "€\uFFFD\uFFFD\uFFFD\uFFFD…" ++ gap 11 ++ "‘’“”•–—" ++ gap 8 ++ "\u00A0" ++ run 0xE01 58 ++
    "\uFFFD\uFFFD\uFFFD\uFFFD" ++ run 0xE3F 29 ++ "\uFFFD\uFFFD\uFFFD\uFFFD"),
  (["hp_roman8", "cp1051", "csHPRoman8", "ibm1051", "r8", "roman8"],
    run 0x80 33 ++
    "ÀÂÈÊËÎÏ´ˋˆ¨˜ÙÛ₤¯Ýý°ÇçÑñ¡¿¤£¥§ƒ¢âêôûáéóúàèòùäëöüÅîØÆåíøæÄìÖÜÉïßÔÁÃãÐðÍÌÓÒÕõŠšÚŸÿÞþ·µ¶" ++
    "¾—¼½ªº«■»±\uFFFD"),
  (["iso8859_10", "csisolatin6", "iso_8859_10", "iso_8859_10_1992", "iso_ir_157", "l6", "latin6"],
    run 0x80 33 ++
    "ĄĒĢĪĨĶ§ĻĐŠŦŽ\u00ADŪŊ°ąēģīĩķ·ļđšŧž―ūŋĀÁÂÃÄÅÆĮČÉĘËĖÍÎÏÐŅŌÓÔÕÖŨØŲÚÛÜÝÞßāáâãäåæįčéęëėíîï" ++
    "ðņōóôõöũøųúûüýþĸ"),
  (["iso8859_11", "iso_8859_11", "iso_8859_11_2001", "thai"],
    run 0x80 33 ++ run 0xE01 58 ++ "\uFFFD\uFFFD\uFFFD\uFFFD" ++ run 0xE3F 29 ++
    "\uFFFD\uFFFD\uFFFD\uFFFD"),
  (["iso8859_13", "iso_8859_13", "l7", "latin7"],
    run 0x80 33 ++
    "”¢£¤„¦§Ø©Ŗ«¬\u00AD®Æ°±²³“µ¶·ø¹ŗ»¼½¾æĄĮĀĆÄÅĘĒČÉŹĖĢĶĪĻŠŃŅÓŌÕÖ×ŲŁŚŪÜŻŽßąįāćäåęēčéźėģķīļ" ++
    "šńņóōõö÷ųłśūüżž’"),
  (["iso8859_14", "iso_8859_14", "iso_8859_14_1998", "iso_celtic", "iso_ir_199", "l8", "latin8"],
    run 0x80 33 ++ "Ḃḃ£ĊċḊ§Ẁ©ẂḋỲ\u00AD®ŸḞḟĠġṀṁ¶ṖẁṗẃṠỳẄẅṡ" ++ run 0xC0 16 ++ "ŴÑÒÓÔÕÖṪØÙÚÛÜÝŶ" ++
    run 0xDF 17 ++ "ŵñòóôõöṫøùúûüýŷÿ"),
  (["iso8859_15", "iso_8859_15", "l9", "latin9"],
    run 0x80 36 ++ "€¥Š§š" ++ run 0xA9 11 ++ "Žµ¶·ž¹º»ŒœŸ" ++ run 0xBF 65),
  (["iso8859_16", "iso_8859_16", "iso_8859_16_2001", "iso_ir_226", "l10", "latin10"],
    run 0x80 33 ++ "ĄąŁ€„Š§š©Ș«Ź\u00ADźŻ°±ČłŽ”¶·žčș»ŒœŸżÀÁÂĂÄĆ" ++ run 0xC6 10 ++
    "ĐŃÒÓÔŐÖŚŰÙÚÛÜĘȚßàáâăäć" ++ run 0xE6 10 ++ "đńòóôőöśűùúûüęțÿ"),
  (["iso8859_2", "csisolatin2", "iso_8859_2", "iso_8859_2_1987", "iso_ir_101", "l2", "latin2"],
    run 0x80 33 ++
    "Ą˘Ł¤ĽŚ§¨ŠŞŤŹ\u00ADŽŻ°ą˛ł´ľśˇ¸šşťź˝žżŔÁÂĂÄĹĆÇČÉĘËĚÍÎĎĐŃŇÓÔŐÖ×ŘŮÚŰÜÝŢßŕáâăäĺćçčéęëěíîď" ++
    "đńňóôőö÷řůúűüýţ˙"),
  (["iso8859_3", "csisolatin3", "iso_8859_3", "iso_8859_3_1988", "iso_ir_109", "l3", "latin3"],
    run 0x80 33 ++
    "Ħ˘£¤\uFFFDĤ§¨İŞĞĴ\u00AD\uFFFDŻ°ħ²³´µĥ·¸ışğĵ½\uFFFDżÀÁÂ\uFFFDÄĊĈÇÈÉÊËÌÍÎÏ\uFFFDÑÒÓÔĠÖ" ++
    "×ĜÙÚÛÜŬŜßàáâ\uFFFDäċĉçèéêëìíîï\uFFFDñòóôġö÷ĝùúûüŭŝ˙"),
  (["iso8859_4", "csisolatin4", "iso_8859_4", "iso_8859_4_1988", "iso_ir_110", "l4", "latin4"],
    run 0x80 33 ++
    "ĄĸŖ¤ĨĻ§¨ŠĒĢŦ\u00ADŽ¯°ą˛ŗ´ĩļˇ¸šēģŧŊžŋĀÁÂÃÄÅÆĮČÉĘËĖÍÎĪĐŅŌĶÔÕÖ×ØŲÚÛÜŨŪßāáâãäåæįčéęëėíîī" ++
    "đņōķôõö÷øųúûüũū˙"),
  (["iso8859_5", "csisolatincyrillic", "cyrillic", "iso_8859_5", "iso_8859_5_1988", "iso_ir_144"],
    run 0x80 33 ++ run 0x401 12 ++ "\u00AD" ++ run 0x40E 66 ++ "№" ++ run 0x451 12 ++ "§ўџ"),
  (["iso8859_6", "arabic", "asmo_708", "csisolatinarabic", "ecma_114", "iso_8859_6",
    "iso_8859_6_1987", "iso_ir_127"],
    run 0x80 33 ++ "\uFFFD\uFFFD\uFFFD¤\uFFFD\uFFFD\uFFFD\uFFFD\uFFFD\uFFFD\uFFFD،\u00AD" ++
    gap 13 ++ "\u061B\uFFFD\uFFFD\uFFFD\u061F\uFFFD" ++ run 0x621 26 ++
    "\uFFFD\uFFFD\uFFFD\uFFFD\uFFFD" ++ run 0x640 19 ++ gap 13),
  (["iso8859_7", "csisolatingreek", "ecma_118", "elot_928", "greek", "greek8", "iso_8859_7",
    "iso_8859_7_1987", "iso_ir_126"],
    run 0x80 33 ++ "‘’£€₯¦§¨©ͺ«¬\u00AD\uFFFD―°±²³΄΅Ά·ΈΉΊ»Ό½" ++ run 0x38E 20 ++ "\uFFFD" ++
    run 0x3A3 44 ++ "\uFFFD"),
  (["iso8859_8", "csisolatinhebrew", "hebrew", "iso_8859_8", "iso_8859_8_1988", "iso_ir_138"],
    run 0x80 33 ++ "\uFFFD¢£¤¥¦§¨©×" ++ run 0xAB 15 ++ "÷»¼½¾" ++ gap 32 ++ "‗" ++ run 0x5D0 27 ++
    "\uFFFD\uFFFD\u200E\u200F\uFFFD"),
  (["iso8859_9", "csisolatin5", "iso_8859_9", "iso_8859_9_1989", "iso_ir_148", "l5", "latin5"],
    run 0x80 80 ++ "Ğ" ++ run 0xD1 12 ++ "İŞ" ++ run 0xDF 17 ++ "ğ" ++ run 0xF1 12 ++ "ışÿ"),
  (["koi8_r", "cskoi8r"],
    "─│┌┐└┘├┤┬┴┼▀▄█▌▐░▒▓⌠■∙√≈≤≥\u00A0⌡°²·÷═║╒ё" ++ run 0x2553 15 ++ "Ё" ++ run 0x2562 11 ++
    "©юабцдефгхийклмнопярстужвьызшэщчъЮАБЦДЕФГХИЙКЛМНОПЯРСТУЖВЬЫЗШЭЩЧЪ"),
  (["koi8_t"],
    "қғ‚Ғ„…†‡\uFFFD‰ҳ‹ҲҷҶ\uFFFDҚ‘’“”•–—\uFFFD™\uFFFD›\uFFFD\uFFFD\uFFFD\uFFFD\uFFFDӯӮё¤ӣ¦" ++
    "§\uFFFD\uFFFD\uFFFD«¬\u00AD®\uFFFD°±²Ё\uFFFDӢ¶·\uFFFD№\uFFFD»\uFFFD\uFFFD\uFFFD©юабц" ++
    "дефгхийклмнопярстужвьызшэщчъЮАБЦДЕФГХИЙКЛМНОПЯРСТУЖВЬЫЗШЭЩЧЪ"),
  (["koi8_u"],
    "─│┌┐└┘├┤┬┴┼▀▄█▌▐░▒▓⌠■∙√≈≤≥\u00A0⌡°²·÷═║╒ёє╔ії╗╘╙╚╛ґ╝╞╟╠╡ЁЄ╣ІЇ╦╧╨╩╪Ґ╬©юабцдефгхийклмн" ++
    "опярстужвьызшэщчъЮАБЦДЕФГХИЙКЛМНОПЯРСТУЖВЬЫЗШЭЩЧЪ"),
  (["kz1048", "kz_1048", "rk1048", "strk1048_2002"],
    "ЂЃ‚ѓ„…†‡€‰Љ‹ЊҚҺЏђ‘’“”•–—\uFFFD™љ›њқһџ\u00A0ҰұӘ¤Ө¦§Ё©Ғ«¬\u00AD®Ү°±Ііөµ¶·ё№ғ»әҢңү" ++
    run 0x410 64),
  (["mac_croatian"],
    "ÄÅÇÉÑÖÜáàâäãåçéèêëíìîïñóòôöõúùûü†°¢£§•¶ß®Š™´¨≠ŽØ∞±≤≥∆µ∂∑∏š∫ªºΩžø¿¡¬√ƒ≈Ć«Č…\u00A0ÀÃÕŒ" ++
    "œĐ—“”‘’÷◊\uF8FF©⁄€‹›Æ»–·‚„‰ÂćÁčÈÍÎÏÌÓÔđÒÚÛÙıˆ˜¯πË˚¸Êæˇ"),
  (["mac_cyrillic", "maccyrillic"],
    run 0x410 32 ++ "†°Ґ£§•¶І®©™Ђђ≠Ѓѓ∞±≤≥іµґЈЄєЇїЉљЊњјЅ¬√ƒ≈∆«»…\u00A0ЋћЌќѕ–—“”‘’÷„ЎўЏџ№Ёёя" ++
    run 0x430 31 ++ "€"),
  (["mac_greek", "macgreek"],
    "Ä¹²É³ÖÜ΅àâä΄¨çéèêë£™îï•½‰ôö¦€ùûü†ΓΔΘΛΞΠß®©ΣΪ§≠°·Α±≤≥¥ΒΕΖΗΙΚΜΦΫΨΩάΝ¬ΟΡ≈Τ«»…\u00A0ΥΧΆΈ" ++
    "œ–―“”‘’÷ΉΊΌΎέήίόΏύαβψδεφγηιξκλμνοπώρστθωςχυζϊϋΐΰ\u00AD"),
  (["mac_iceland", "maciceland"],
    "ÄÅÇÉÑÖÜáàâäãåçéèêëíìîïñóòôöõúùûüÝ°¢£§•¶ß®©™´¨≠ÆØ∞±≤≥¥µ∂∑∏π∫ªºΩæø¿¡¬√ƒ≈∆«»…\u00A0ÀÃÕŒ" ++
    "œ–—“”‘’÷◊ÿŸ⁄€ÐðÞþý·‚„‰ÂÊÁËÈÍÎÏÌÓÔ\uF8FFÒÚÛÙıˆ˜¯˘˙˚¸˝˛ˇ"),
  (["mac_latin2", "mac_centeuro", "maccentraleurope", "maclatin2"],
    "ÄĀāÉĄÖÜáąČäčĆćéŹźĎíďĒēĖóėôöõúĚěü†°Ę£§•¶ß®©™ę¨≠ģĮįĪ≤≥īĶ∂∑łĻļĽľĹĺŅņŃ¬√ńŇ∆«»…\u00A0ňŐÕő" ++
    "Ō–—“”‘’÷◊ōŔŕŘ‹›řŖŗŠ‚„šŚśÁŤťÍŽžŪÓÔūŮÚůŰűŲųÝýķŻŁżĢˇ"),
  (["mac_roman", "macintosh", "macroman"],
    "ÄÅÇÉÑÖÜáàâäãåçéèêëíìîïñóòôöõúùûü†°¢£§•¶ß®©™´¨≠ÆØ∞±≤≥¥µ∂∑∏π∫ªºΩæø¿¡¬√ƒ≈∆«»…\u00A0ÀÃÕŒ" ++
    "œ–—“”‘’÷◊ÿŸ⁄€‹›ﬁﬂ‡·‚„‰ÂÊÁËÈÍÎÏÌÓÔ\uF8FFÒÚÛÙıˆ˜¯˘˙˚¸˝˛ˇ"),
  (["mac_romanian"],
    "ÄÅÇÉÑÖÜáàâäãåçéèêëíìîïñóòôöõúùûü†°¢£§•¶ß®©™´¨≠ĂȘ∞±≤≥¥µ∂∑∏π∫ªºΩăș¿¡¬√ƒ≈∆«»…\u00A0ÀÃÕŒ" ++
    "œ–—“”‘’÷◊ÿŸ⁄€‹›Țț‡·‚„‰ÂÊÁËÈÍÎÏÌÓÔ\uF8FFÒÚÛÙıˆ˜¯˘˙˚¸˝˛ˇ"),
  (["mac_turkish", "macturkish"],
    "ÄÅÇÉÑÖÜáàâäãåçéèêëíìîïñóòôöõúùûü†°¢£§•¶ß®©™´¨≠ÆØ∞±≤≥¥µ∂∑∏π∫ªºΩæø¿¡¬√ƒ≈∆«»…\u00A0ÀÃÕŒ" ++
    "œ–—“”‘’÷◊ÿŸĞğİıŞş‡·‚„‰ÂÊÁËÈÍÎÏÌÓÔ\uF8FFÒÚÛÙ\uF8A0ˆ˜¯˘˙˚¸˝˛ˇ"),
  (["palmos"], "€\u0081‚ƒ„…†‡ˆ‰Š‹Œ♦♣♥♠‘’“”•–—˜™š\u009Bœ\u009D\u009EŸ" ++ run 0xA0 96),
  (["ptcp154", "cp154", "csptcp154", "cyrillic_asian", "pt154"],
    "ҖҒӮғ„…ҶҮҲүҠӢҢҚҺҸҗ‘’“”•–—ҳҷҡӣңқһҹ\u00A0ЎўЈӨҘҰ§Ё©Ә«¬ӯ®Ҝ°ұІіҙө¶·ё№ә»јҪҫҝ" ++ run 0x410 64),
  (["tis_620", "iso_ir_166", "tis620", "tis_620_0", "tis_620_2529_0", "tis_620_2529_1"],
    run 0x80 32 ++ "\uFFFD" ++ run 0xE01 58 ++ "\uFFFD\uFFFD\uFFFD\uFFFD" ++ run 0xE3F 29 ++
    "\uFFFD\uFFFD\uFFFD\uFFFD")]

/-- Encodings that read single octets as ASCII and no others. -/
def asciiNames : List (List String) := [
  ["ascii", "ansi_x3.4_1968", "ansi_x3.4_1986", "ansi_x3_4_1968", "cp367", "csascii", "ibm367",
    "iso646_us", "iso_646.irv_1991", "iso_ir_6", "us", "us_ascii"],
  ["iso2022_jp", "csiso2022jp", "iso2022jp", "iso_2022_jp"],
  ["iso2022_jp_1", "iso2022jp_1", "iso_2022_jp_1"],
  ["iso2022_jp_2", "iso2022jp_2", "iso_2022_jp_2"],
  ["iso2022_jp_2004", "iso2022jp_2004", "iso_2022_jp_2004"],
  ["iso2022_jp_3", "iso2022jp_3", "iso_2022_jp_3"],
  ["iso2022_jp_ext", "iso2022jp_ext", "iso_2022_jp_ext"],
  ["utf_8", "cp65001", "u8", "utf", "utf8", "utf8_ucs2", "utf8_ucs4"],
  ["utf_8_sig"]]

/-- Encodings that read each octet as the character of its number. -/
def latin1Names : List (List String) := [
  ["charmap"],
  ["latin_1", "cp819", "csisolatin1", "ibm819", "iso8859", "iso8859_1", "iso_8859_1",
    "iso_8859_1_1987", "iso_ir_100", "l1", "latin", "latin1"],
  ["raw_unicode_escape"],
  ["unicode_escape"]]

def hzNames : List String := ["hz", "hz_gb", "hz_gb_2312", "hzgb"]

/-- Encodings whose first half is not ASCII, or that have ASCII in their second half too. -/
def foreignNames : List (List String) := [
  ["cp037", "csibm037", "ebcdic_cp_ca", "ebcdic_cp_nl", "ebcdic_cp_us", "ebcdic_cp_wt", "ibm037",
    "ibm039"],
  ["cp1026", "csibm1026", "ibm1026"],
  ["cp1140", "ibm1140"],
  ["cp273", "csibm273", "ibm273"],
  ["cp424", "csibm424", "ebcdic_cp_he", "ibm424"],
  ["cp500", "csibm500", "ebcdic_cp_be", "ebcdic_cp_ch", "ibm500"],
  ["cp864", "csibm864", "ibm864"],
  ["cp875"],
  ["mac_arabic"],
  ["mac_farsi"]]

def multiByteNames : List (List String) := [
  ["big5", "big5_tw", "csbig5", "x_mac_trad_chinese"],
  ["big5hkscs", "big5_hkscs", "hkscs"],
  ["cp932", "ms932", "ms_kanji", "mskanji"],
  ["cp949", "ms949", "uhc"],
  ["cp950", "ms950"],
  ["euc_jis_2004", "euc_jis2004", "eucjis2004", "jisx0213"],
  ["euc_jisx0213", "eucjisx0213"],
  ["euc_jp", "eucjp", "u_jis", "ujis"],
  ["euc_kr", "euckr", "korean", "ks_c_5601", "ks_c_5601_1987", "ks_x_1001", "ksc5601", "ksx1001",
    "x_mac_korean"],
  ["gb18030", "gb18030_2000"],
  ["gb2312", "chinese", "csiso58gb231280", "euc_cn", "euccn", "eucgb2312_cn", "gb2312_1980",
    "gb2312_80", "iso_ir_58", "x_mac_simp_chinese"],
  ["gbk", "cp936", "ms936"],
  ["iso2022_kr", "csiso2022kr", "iso2022kr", "iso_2022_kr"],
  ["johab", "cp1361", "ms1361"],
  ["shift_jis", "csshiftjis", "s_jis", "shiftjis", "sjis", "x_mac_japanese"],
  ["shift_jis_2004", "s_jis_2004", "shiftjis2004", "sjis_2004"],
  ["shift_jisx0213", "s_jisx0213", "shiftjisx0213", "sjisx0213"],
  ["utf_16", "u16", "utf16"],
  ["utf_16_be", "unicodebigunmarked", "utf_16be"],
  ["utf_16_le", "unicodelittleunmarked", "utf_16le"],
  ["utf_32", "u32", "utf32"],
  ["utf_32_be", "utf_32be"],
  ["utf_32_le", "utf_32le"],
  ["utf_7", "u7", "unicode_1_1_utf_7", "utf7"]]

/-- Encodings that do not read all octets, even with a replacement for those that are malformed. -/
def pagelessNames : List (List String) := [["idna"], ["punycode"], ["undefined"]]

end CodePage

namespace Encoding

/-- A name in small letters; an underscore stands for what separates letters, digits and points. -/
def normalizeName (name : String) : String :=
  let isKept := fun (c : Char) => c.isAlphanum || c == '.'
  let words := (name.toList.map Char.toLower).splitBy fun a b => isKept a && isKept b
  "_".intercalate ((words.filter (·.any isKept)).map String.ofList)

/-- Whether an encoding has a name. A point stands for an underscore, but not in the proper name. -/
def isNamed (names : List String) (name : String) : Bool :=
  names.contains name ||
    names.tail.contains (String.ofList (name.toList.map fun c => if c = '.' then '_' else c))

/-- The encodings with their names. -/
def all : List (List String × Except ReadError Encoding) :=
  CodePage.asciiNames.map (·, .ok .ascii) ++ CodePage.latin1Names.map (·, .ok .latin1) ++
  [(CodePage.hzNames, .ok .asciiWithoutTilde)] ++
  CodePage.pages.map (fun (names, high) => (names, .ok (.page high))) ++
  CodePage.foreignNames.map (·, .error .notWellFormed) ++
  CodePage.multiByteNames.map (·, .error .multiByteEncoding) ++
  CodePage.pagelessNames.map (fun names => (names, .error (.noPage (names.headD ""))))

/-- The encoding of a name. -/
def ofName (name : String) : Except ReadError Encoding :=
  match all.find? fun entry => isNamed entry.1 (normalizeName name) with
  | some (_, encoding) => encoding
  | none => .error .unknownEncoding

end Encoding

end ServiceClient.Xml
