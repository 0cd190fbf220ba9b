import InstanceCatalog.Text.Charset.CodePage

/-! # Code pages: languages and devices -/

namespace InstanceCatalog.Text.CodePage

/-- Pages that were made for one language or one kind of device. -/
def regionalPages : List CodePage :=
  [⟨["hp_roman8", "cp1051", "csHPRoman8", "ibm1051", "r8", "roman8"],
      "ÀÂÈÊËÎÏ´ˋˆ¨˜ÙÛ₤¯Ýý°ÇçÑñ¡¿¤£¥§ƒ¢âêôûáéóúàèòùäëöüÅîØÆåíøæÄìÖÜÉïßÔÁÃãÐðÍÌÓÒÕõŠšÚŸÿÞþ·µ¶¾—"
        ++ "¼½ªº«■»±�"⟩,
   ⟨["koi8_r", "cskoi8r"],
      "─│┌┐└┘├┤┬┴┼▀▄█▌▐░▒▓⌠■∙√≈≤≥\xa0⌡°²·÷═║╒ё╓╔╕╖╗╘╙╚╛╜╝╞╟╠╡Ё╢╣╤╥╦╧╨╩╪╫╬©юабцдефгхийклмнопяр"
        ++ "стужвьызшэщчъЮАБЦДЕФГХИЙКЛМНОПЯРСТУЖВЬЫЗШЭЩЧЪ"⟩,
   ⟨["koi8_t"],
      "қғ‚Ғ„…†‡�‰ҳ‹ҲҷҶ�Қ‘’“”•–—�™�›�����ӯӮё¤ӣ¦§���«¬\xad®�°±²Ё�Ӣ¶·�№�»���©юабцдефгхийклмнопяр"
        ++ "стужвьызшэщчъЮАБЦДЕФГХИЙКЛМНОПЯРСТУЖВЬЫЗШЭЩЧЪ"⟩,
   ⟨["koi8_u"],
      "─│┌┐└┘├┤┬┴┼▀▄█▌▐░▒▓⌠■∙√≈≤≥\xa0⌡°²·÷═║╒ёє╔ії╗╘╙╚╛ґ╝╞╟╠╡ЁЄ╣ІЇ╦╧╨╩╪Ґ╬©юабцдефгхийклмнопяр"
        ++ "стужвьызшэщчъЮАБЦДЕФГХИЙКЛМНОПЯРСТУЖВЬЫЗШЭЩЧЪ"⟩,
   ⟨["kz1048", "kz_1048", "rk1048", "strk1048_2002"],
      "ЂЃ‚ѓ„…†‡€‰Љ‹ЊҚҺЏђ‘’“”•–—�™љ›њқһџ\xa0ҰұӘ¤Ө¦§Ё©Ғ«¬\xad®Ү°±Ііөµ¶·ё№ғ»әҢңүАБВГДЕЖЗИЙКЛМНОП"
        ++ "РСТУФХЦЧШЩЪЫЬЭЮЯабвгдежзийклмнопрстуфхцчшщъыьэюя"⟩,
   ⟨["ptcp154", "cp154", "csptcp154", "cyrillic_asian", "pt154"],
      "ҖҒӮғ„…ҶҮҲүҠӢҢҚҺҸҗ‘’“”•–—ҳҷҡӣңқһҹ\xa0ЎўЈӨҘҰ§Ё©Ә«¬ӯ®Ҝ°ұІіҙө¶·ё№ә»јҪҫҝАБВГДЕЖЗИЙКЛМНОПРСТ"
        ++ "УФХЦЧШЩЪЫЬЭЮЯабвгдежзийклмнопрстуфхцчшщъыьэюя"⟩]

end InstanceCatalog.Text.CodePage
