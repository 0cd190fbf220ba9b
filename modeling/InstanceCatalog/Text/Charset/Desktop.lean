import InstanceCatalog.Text.Charset.CodePage

/-! # Code pages: desktop computers and their windowed systems -/

namespace InstanceCatalog.Text.CodePage

/-- The pages of early desktop and pocket computers. -/
def desktopPages : List CodePage :=
  [⟨["mac_arabic"],
      "Ä\xa0ÇÉÑÖÜáàâä\u06ba«çéèêëí…îïñó»ôö÷úùûü !\"#$٪&'()*+،-./\u0660\u0661\u0662\u0663"
        ++ "\u0664\u0665\u0666\u0667\u0668\u0669:\u061b<=>\u061f❊\u0621\u0622\u0623\u0624\u0625"
        ++ "\u0626\u0627\u0628\u0629\u062a\u062b\u062c\u062d\u062e\u062f\u0630\u0631\u0632\u0633"
        ++ "\u0634\u0635\u0636\u0637\u0638\u0639\u063a[\\]^_\u0640\u0641\u0642\u0643\u0644\u0645"
        ++ "\u0646\u0647\u0648\u0649\u064a\u064b\u064c\u064d\u064e\u064f\u0650\u0651\u0652\u067e"
        ++ "\u0679\u0686\u06d5\u06a4\u06af\u0688\u0691\x7b|\x7d\u0698\u06d2"⟩,
   ⟨["mac_croatian"],
      "ÄÅÇÉÑÖÜáàâäãåçéèêëíìîïñóòôöõúùûü†°¢£§•¶ß®Š™´¨≠ŽØ∞±≤≥∆µ∂∑∏š∫ªºΩžø¿¡¬√ƒ≈Ć«Č…\xa0ÀÃÕŒœĐ—“"
        ++ "”‘’÷◊\uf8ff©⁄€‹›Æ»–·‚„‰ÂćÁčÈÍÎÏÌÓÔđÒÚÛÙıˆ˜¯πË˚¸Êæˇ"⟩,
   ⟨["mac_cyrillic", "maccyrillic"],
      "АБВГДЕЖЗИЙКЛМНОПРСТУФХЦЧШЩЪЫЬЭЮЯ†°Ґ£§•¶І®©™Ђђ≠Ѓѓ∞±≤≥іµґЈЄєЇїЉљЊњјЅ¬√ƒ≈∆«»…\xa0ЋћЌќѕ–—“"
        ++ "”‘’÷„ЎўЏџ№Ёёяабвгдежзийклмнопрстуфхцчшщъыьэю€"⟩,
   ⟨["mac_farsi"],
      "Ä\xa0ÇÉÑÖÜáàâä\u06ba«çéèêëí…îïñó»ôö÷úùûü !\"#$٪&'()*+،-./۰۱۲۳۴۵۶۷۸۹:\u061b<=>\u061f❊"
        ++ "\u0621\u0622\u0623\u0624\u0625\u0626\u0627\u0628\u0629\u062a\u062b\u062c\u062d\u062e"
        ++ "\u062f\u0630\u0631\u0632\u0633\u0634\u0635\u0636\u0637\u0638\u0639\u063a[\\]^_\u0640"
        ++ "\u0641\u0642\u0643\u0644\u0645\u0646\u0647\u0648\u0649\u064a\u064b\u064c\u064d\u064e"
        ++ "\u064f\u0650\u0651\u0652\u067e\u0679\u0686\u06d5\u06a4\u06af\u0688\u0691\x7b|\x7d"
        ++ "\u0698\u06d2"⟩,
   ⟨["mac_greek", "macgreek"],
      "Ä¹²É³ÖÜ΅àâä΄¨çéèêë£™îï•½‰ôö¦€ùûü†ΓΔΘΛΞΠß®©ΣΪ§≠°·Α±≤≥¥ΒΕΖΗΙΚΜΦΫΨΩάΝ¬ΟΡ≈Τ«»…\xa0ΥΧΆΈœ–―“"
        ++ "”‘’÷ΉΊΌΎέήίόΏύαβψδεφγηιξκλμνοπώρστθωςχυζϊϋΐΰ\xad"⟩,
   ⟨["mac_iceland", "maciceland"],
      "ÄÅÇÉÑÖÜáàâäãåçéèêëíìîïñóòôöõúùûüÝ°¢£§•¶ß®©™´¨≠ÆØ∞±≤≥¥µ∂∑∏π∫ªºΩæø¿¡¬√ƒ≈∆«»…\xa0ÀÃÕŒœ–—“"
        ++ "”‘’÷◊ÿŸ⁄€ÐðÞþý·‚„‰ÂÊÁËÈÍÎÏÌÓÔ\uf8ffÒÚÛÙıˆ˜¯˘˙˚¸˝˛ˇ"⟩,
   ⟨["mac_latin2", "mac_centeuro", "maccentraleurope", "maclatin2"],
      "ÄĀāÉĄÖÜáąČäčĆćéŹźĎíďĒēĖóėôöõúĚěü†°Ę£§•¶ß®©™ę¨≠ģĮįĪ≤≥īĶ∂∑łĻļĽľĹĺŅņŃ¬√ńŇ∆«»…\xa0ňŐÕőŌ–—“"
        ++ "”‘’÷◊ōŔŕŘ‹›řŖŗŠ‚„šŚśÁŤťÍŽžŪÓÔūŮÚůŰűŲųÝýķŻŁżĢˇ"⟩,
   ⟨["mac_roman", "macintosh", "macroman"],
      "ÄÅÇÉÑÖÜáàâäãåçéèêëíìîïñóòôöõúùûü†°¢£§•¶ß®©™´¨≠ÆØ∞±≤≥¥µ∂∑∏π∫ªºΩæø¿¡¬√ƒ≈∆«»…\xa0ÀÃÕŒœ–—“"
        ++ "”‘’÷◊ÿŸ⁄€‹›ﬁﬂ‡·‚„‰ÂÊÁËÈÍÎÏÌÓÔ\uf8ffÒÚÛÙıˆ˜¯˘˙˚¸˝˛ˇ"⟩,
   ⟨["mac_romanian"],
      "ÄÅÇÉÑÖÜáàâäãåçéèêëíìîïñóòôöõúùûü†°¢£§•¶ß®©™´¨≠ĂȘ∞±≤≥¥µ∂∑∏π∫ªºΩăș¿¡¬√ƒ≈∆«»…\xa0ÀÃÕŒœ–—“"
        ++ "”‘’÷◊ÿŸ⁄€‹›Țț‡·‚„‰ÂÊÁËÈÍÎÏÌÓÔ\uf8ffÒÚÛÙıˆ˜¯˘˙˚¸˝˛ˇ"⟩,
   ⟨["mac_turkish", "macturkish"],
      "ÄÅÇÉÑÖÜáàâäãåçéèêëíìîïñóòôöõúùûü†°¢£§•¶ß®©™´¨≠ÆØ∞±≤≥¥µ∂∑∏π∫ªºΩæø¿¡¬√ƒ≈∆«»…\xa0ÀÃÕŒœ–—“"
        ++ "”‘’÷◊ÿŸĞğİıŞş‡·‚„‰ÂÊÁËÈÍÎÏÌÓÔ\uf8ffÒÚÛÙ\uf8a0ˆ˜¯˘˙˚¸˝˛ˇ"⟩,
   ⟨["palmos"],
      "€\x81‚ƒ„…†‡ˆ‰Š‹Œ♦♣♥♠‘’“”•–—˜™š\x9bœ\x9d\x9eŸ\xa0¡¢£¤¥¦§¨©ª«¬\xad®¯°±²³´µ¶·¸¹º»¼½¾¿ÀÁÂÃ"
        ++ "ÄÅÆÇÈÉÊËÌÍÎÏÐÑÒÓÔÕÖ×ØÙÚÛÜÝÞßàáâãäåæçèéêëìíîïðñòóôõö÷øùúûüýþÿ"⟩]

/-- The pages of windowed systems. -/
def windowsPages : List CodePage :=
  [⟨["cp1250", "1250", "windows_1250"],
      "€�‚�„…†‡�‰Š‹ŚŤŽŹ�‘’“”•–—�™š›śťžź\xa0ˇ˘Ł¤Ą¦§¨©Ş«¬\xad®Ż°±˛ł´µ¶·¸ąş»Ľ˝ľżŔÁÂĂÄĹĆÇČÉĘËĚÍÎĎ"
        ++ "ĐŃŇÓÔŐÖ×ŘŮÚŰÜÝŢßŕáâăäĺćçčéęëěíîďđńňóôőö÷řůúűüýţ˙"⟩,
   ⟨["cp1251", "1251", "windows_1251"],
      "ЂЃ‚ѓ„…†‡€‰Љ‹ЊЌЋЏђ‘’“”•–—�™љ›њќћџ\xa0ЎўЈ¤Ґ¦§Ё©Є«¬\xad®Ї°±Ііґµ¶·ё№є»јЅѕїАБВГДЕЖЗИЙКЛМНОП"
        ++ "РСТУФХЦЧШЩЪЫЬЭЮЯабвгдежзийклмнопрстуфхцчшщъыьэюя"⟩,
   ⟨["cp1252", "1252", "windows_1252"],
      "€�‚ƒ„…†‡ˆ‰Š‹Œ�Ž��‘’“”•–—˜™š›œ�žŸ\xa0¡¢£¤¥¦§¨©ª«¬\xad®¯°±²³´µ¶·¸¹º»¼½¾¿ÀÁÂÃÄÅÆÇÈÉÊËÌÍÎÏ"
        ++ "ÐÑÒÓÔÕÖ×ØÙÚÛÜÝÞßàáâãäåæçèéêëìíîïðñòóôõö÷øùúûüýþÿ"⟩,
   ⟨["cp1253", "1253", "windows_1253"],
      "€�‚ƒ„…†‡�‰�‹�����‘’“”•–—�™�›����\xa0΅Ά£¤¥¦§¨©�«¬\xad®―°±²³΄µ¶·ΈΉΊ»Ό½ΎΏΐΑΒΓΔΕΖΗΘΙΚΛΜΝΞΟ"
        ++ "ΠΡ�ΣΤΥΦΧΨΩΪΫάέήίΰαβγδεζηθικλμνξοπρςστυφχψωϊϋόύώ�"⟩,
   ⟨["cp1254", "1254", "windows_1254"],
      "€�‚ƒ„…†‡ˆ‰Š‹Œ����‘’“”•–—˜™š›œ��Ÿ\xa0¡¢£¤¥¦§¨©ª«¬\xad®¯°±²³´µ¶·¸¹º»¼½¾¿ÀÁÂÃÄÅÆÇÈÉÊËÌÍÎÏ"
        ++ "ĞÑÒÓÔÕÖ×ØÙÚÛÜİŞßàáâãäåæçèéêëìíîïğñòóôõö÷øùúûüışÿ"⟩,
   ⟨["cp1255", "1255", "windows_1255"],
      "€�‚ƒ„…†‡ˆ‰�‹�����‘’“”•–—˜™�›����\xa0¡¢£₪¥¦§¨©×«¬\xad®¯°±²³´µ¶·¸¹÷»¼½¾¿\u05b0\u05b1"
        ++ "\u05b2\u05b3\u05b4\u05b5\u05b6\u05b7\u05b8\u05b9�\u05bb\u05bc\u05bd\u05be\u05bf\u05c0"
        ++ "\u05c1\u05c2\u05c3\u05f0\u05f1\u05f2\u05f3\u05f4�������\u05d0\u05d1\u05d2\u05d3\u05d4"
        ++ "\u05d5\u05d6\u05d7\u05d8\u05d9\u05da\u05db\u05dc\u05dd\u05de\u05df\u05e0\u05e1\u05e2"
        ++ "\u05e3\u05e4\u05e5\u05e6\u05e7\u05e8\u05e9\u05ea��\u200e\u200f�"⟩,
   ⟨["cp1256", "1256", "windows_1256"],
      "€\u067e‚ƒ„…†‡ˆ‰\u0679‹Œ\u0686\u0698\u0688\u06af‘’“”•–—\u06a9™\u0691›œ\u200c\u200d"
        ++ "\u06ba\xa0،¢£¤¥¦§¨©\u06be«¬\xad®¯°±²³´µ¶·¸¹\u061b»¼½¾\u061f\u06c1\u0621\u0622\u0623"
        ++ "\u0624\u0625\u0626\u0627\u0628\u0629\u062a\u062b\u062c\u062d\u062e\u062f\u0630\u0631"
        ++ "\u0632\u0633\u0634\u0635\u0636×\u0637\u0638\u0639\u063a\u0640\u0641\u0642\u0643à\u0644"
        ++ "â\u0645\u0646\u0647\u0648çèéêë\u0649\u064aîï\u064b\u064c\u064d\u064eô\u064f\u0650÷"
        ++ "\u0651ù\u0652ûü\u200e\u200f\u06d2"⟩,
   ⟨["cp1257", "1257", "windows_1257"],
      "€�‚�„…†‡�‰�‹�¨ˇ¸�‘’“”•–—�™�›�¯˛�\xa0�¢£¤�¦§Ø©Ŗ«¬\xad®Æ°±²³´µ¶·ø¹ŗ»¼½¾æĄĮĀĆÄÅĘĒČÉŹĖĢĶĪĻ"
        ++ "ŠŃŅÓŌÕÖ×ŲŁŚŪÜŻŽßąįāćäåęēčéźėģķīļšńņóōõö÷ųłśūüżž˙"⟩,
   ⟨["cp1258", "1258", "windows_1258"],
      "€�‚ƒ„…†‡ˆ‰�‹Œ����‘’“”•–—˜™�›œ��Ÿ\xa0¡¢£¤¥¦§¨©ª«¬\xad®¯°±²³´µ¶·¸¹º»¼½¾¿ÀÁÂĂÄÅÆÇÈÉÊË"
        ++ "\u0300ÍÎÏĐÑ\u0309ÓÔƠÖ×ØÙÚÛÜƯ\u0303ßàáâăäåæçèéêë\u0301íîïđñ\u0323óôơö÷øùúûüư₫ÿ"⟩,
   ⟨["cp874"],
      "€����…�����������‘’“”•–—��������\xa0กขฃคฅฆงจฉชซฌญฎฏฐฑฒณดตถทธนบปผฝพฟภมยรฤลฦวศษสหฬอฮฯะ"
        ++ "\u0e31าำ\u0e34\u0e35\u0e36\u0e37\u0e38\u0e39\u0e3a����฿เแโใไๅๆ\u0e47\u0e48\u0e49\u0e4a"
        ++ "\u0e4b\u0e4c\u0e4d\u0e4e๏๐๑๒๓๔๕๖๗๘๙๚๛����"⟩]

end InstanceCatalog.Text.CodePage
