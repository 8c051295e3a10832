import MonitorWire.Unicode.Table

namespace MonitorWire

namespace Unicode

def scripts : List (String × String) := [
    ("Adlm", "Adlam"),
    ("Aghb", "Caucasian_Albanian"),
    ("Ahom", "Ahom"),
    ("Arab", "Arabic"),
    ("Armi", "Imperial_Aramaic"),
    ("Armn", "Armenian"),
    ("Avst", "Avestan"),
    ("Bali", "Balinese"),
    ("Bamu", "Bamum"),
    ("Bass", "Bassa_Vah"),
    ("Batk", "Batak"),
    ("Beng", "Bengali"),
    ("Bhks", "Bhaiksuki"),
    ("Bopo", "Bopomofo"),
    ("Brah", "Brahmi"),
    ("Brai", "Braille"),
    ("Bugi", "Buginese"),
    ("Buhd", "Buhid"),
    ("Cakm", "Chakma"),
    ("Cans", "Canadian_Aboriginal"),
    ("Cari", "Carian"),
    ("Cham", "Cham"),
    ("Cher", "Cherokee"),
    ("Chrs", "Chorasmian"),
    ("Copt", "Coptic"),
    ("Cpmn", "Cypro_Minoan"),
    ("Cprt", "Cypriot"),
    ("Cyrl", "Cyrillic"),
    ("Deva", "Devanagari"),
    ("Diak", "Dives_Akuru"),
    ("Dogr", "Dogra"),
    ("Dsrt", "Deseret"),
    ("Dupl", "Duployan"),
    ("Egyp", "Egyptian_Hieroglyphs"),
    ("Elba", "Elbasan"),
    ("Elym", "Elymaic"),
    ("Ethi", "Ethiopic"),
    ("Gara", "Garay"),
    ("Geor", "Georgian"),
    ("Glag", "Glagolitic"),
    ("Gong", "Gunjala_Gondi"),
    ("Gonm", "Masaram_Gondi"),
    ("Goth", "Gothic"),
    ("Gran", "Grantha"),
    ("Grek", "Greek"),
    ("Gujr", "Gujarati"),
    ("Gukh", "Gurung_Khema"),
    ("Guru", "Gurmukhi"),
    ("Hang", "Hangul"),
    ("Hani", "Han"),
    ("Hano", "Hanunoo"),
    ("Hatr", "Hatran"),
    ("Hebr", "Hebrew"),
    ("Hira", "Hiragana"),
    ("Hluw", "Anatolian_Hieroglyphs"),
    ("Hmng", "Pahawh_Hmong"),
    ("Hmnp", "Nyiakeng_Puachue_Hmong"),
    ("Hung", "Old_Hungarian"),
    ("Ital", "Old_Italic"),
    ("Java", "Javanese"),
    ("Kali", "Kayah_Li"),
    ("Kana", "Katakana"),
    ("Kawi", "Kawi"),
    ("Khar", "Kharoshthi"),
    ("Khmr", "Khmer"),
    ("Khoj", "Khojki"),
    ("Kits", "Khitan_Small_Script"),
    ("Knda", "Kannada"),
    ("Krai", "Kirat_Rai"),
    ("Kthi", "Kaithi"),
    ("Lana", "Tai_Tham"),
    ("Laoo", "Lao"),
    ("Latn", "Latin"),
    ("Lepc", "Lepcha"),
    ("Limb", "Limbu"),
    ("Lina", "Linear_A"),
    ("Linb", "Linear_B"),
    ("Lisu", "Lisu"),
    ("Lyci", "Lycian"),
    ("Lydi", "Lydian"),
    ("Mahj", "Mahajani"),
    ("Maka", "Makasar"),
    ("Mand", "Mandaic"),
    ("Mani", "Manichaean"),
    ("Marc", "Marchen"),
    ("Medf", "Medefaidrin"),
    ("Mend", "Mende_Kikakui"),
    ("Merc", "Meroitic_Cursive"),
    ("Mero", "Meroitic_Hieroglyphs"),
    ("Mlym", "Malayalam"),
    ("Modi", "Modi"),
    ("Mong", "Mongolian"),
    ("Mroo", "Mro"),
    ("Mtei", "Meetei_Mayek"),
    ("Mult", "Multani"),
    ("Mymr", "Myanmar"),
    ("Nagm", "Nag_Mundari"),
    ("Nand", "Nandinagari"),
    ("Narb", "Old_North_Arabian"),
    ("Nbat", "Nabataean"),
    ("Newa", "Newa"),
    ("Nkoo", "Nko"),
    ("Nshu", "Nushu"),
    ("Ogam", "Ogham"),
    ("Olck", "Ol_Chiki"),
    ("Onao", "Ol_Onal"),
    ("Orkh", "Old_Turkic"),
    ("Orya", "Oriya"),
    ("Osge", "Osage"),
    ("Osma", "Osmanya"),
    ("Ougr", "Old_Uyghur"),
    ("Palm", "Palmyrene"),
    ("Pauc", "Pau_Cin_Hau"),
    ("Perm", "Old_Permic"),
    ("Phag", "Phags_Pa"),
    ("Phli", "Inscriptional_Pahlavi"),
    ("Phlp", "Psalter_Pahlavi"),
    ("Phnx", "Phoenician"),
    ("Plrd", "Miao"),
    ("Prti", "Inscriptional_Parthian"),
    ("Rjng", "Rejang"),
    ("Rohg", "Hanifi_Rohingya"),
    ("Runr", "Runic"),
    ("Samr", "Samaritan"),
    ("Sarb", "Old_South_Arabian"),
    ("Saur", "Saurashtra"),
    ("Sgnw", "SignWriting"),
    ("Shaw", "Shavian"),
    ("Shrd", "Sharada"),
    ("Sidd", "Siddham"),
    ("Sind", "Khudawadi"),
    ("Sinh", "Sinhala"),
    ("Sogd", "Sogdian"),
    ("Sogo", "Old_Sogdian"),
    ("Sora", "Sora_Sompeng"),
    ("Soyo", "Soyombo"),
    ("Sund", "Sundanese"),
    ("Sunu", "Sunuwar"),
    ("Sylo", "Syloti_Nagri"),
    ("Syrc", "Syriac"),
    ("Tagb", "Tagbanwa"),
    ("Takr", "Takri"),
    ("Tale", "Tai_Le"),
    ("Talu", "New_Tai_Lue"),
    ("Taml", "Tamil"),
    ("Tang", "Tangut"),
    ("Tavt", "Tai_Viet"),
    ("Telu", "Telugu"),
    ("Tfng", "Tifinagh"),
    ("Tglg", "Tagalog"),
    ("Thaa", "Thaana"),
    ("Thai", "Thai"),
    ("Tibt", "Tibetan"),
    ("Tirh", "Tirhuta"),
    ("Tnsa", "Tangsa"),
    ("Todr", "Todhri"),
    ("Toto", "Toto"),
    ("Tutg", "Tulu_Tigalari"),
    ("Ugar", "Ugaritic"),
    ("Vaii", "Vai"),
    ("Vith", "Vithkuqi"),
    ("Wara", "Warang_Citi"),
    ("Wcho", "Wancho"),
    ("Xpeo", "Old_Persian"),
    ("Xsux", "Cuneiform"),
    ("Yezi", "Yezidi"),
    ("Yiii", "Yi"),
    ("Zanb", "Zanabazar_Square"),
    ("Zinh", "Inherited"),
    ("Zyyy", "Common"),
    ("Zzzz", "Unknown")]

def scriptAliases : List (String × String) := [("Qaac", "Coptic"), ("Qaai", "Inherited")]

def scriptText : String :=
  "1T:Zyyy Q:Latn 6:Zyyy Q:Latn 1B:Zyyy 1:Latn F:Zyyy 1:Latn 5:Zyyy N:Latn 1:Zyyy V:Latn 1:Zyyy "
  ++ "CH:Latn 13:Zyyy 5:Latn 5:Zyyy 2:Bopo K:Zyyy 34:Zinh 4:Grek 1:Zyyy 3:Grek 2:Zzzz 4:Grek 1:Zyyy "
  ++ "1:Grek 4:Zzzz 1:Grek 1:Zyyy 1:Grek 1:Zyyy 3:Grek 1:Zzzz 1:Grek 1:Zzzz K:Grek 1:Zzzz 1R:Grek "
  ++ "E:Copt G:Grek 3P:Cyrl 2:Zinh 4P:Cyrl 1:Zzzz 12:Armn 2:Zzzz 1E:Armn 2:Zzzz 3:Armn 1:Zzzz 1J:Hebr "
  ++ "8:Zzzz R:Hebr 4:Zzzz 6:Hebr B:Zzzz 5:Arab 1:Zyyy 6:Arab 1:Zyyy E:Arab 1:Zyyy 3:Arab 1:Zyyy "
  ++ "W:Arab 1:Zyyy A:Arab B:Zinh Q:Arab 1:Zinh 30:Arab 1:Zyyy Y:Arab E:Syrc 1:Zzzz 1O:Syrc 2:Zzzz "
  ++ "3:Syrc 1C:Arab 1E:Thaa E:Zzzz 1N:Nkoo 2:Zzzz 3:Nkoo 1A:Samr 2:Zzzz F:Samr 1:Zzzz S:Mand 2:Zzzz "
  ++ "1:Mand 1:Zzzz B:Syrc 5:Zzzz V:Arab 1:Zzzz 2:Arab 5:Zzzz 23:Arab 1:Zyyy T:Arab 29:Deva 4:Zinh "
  ++ "F:Deva 2:Zyyy Q:Deva 4:Beng 1:Zzzz 8:Beng 2:Zzzz 2:Beng 2:Zzzz M:Beng 1:Zzzz 7:Beng 1:Zzzz "
  ++ "1:Beng 3:Zzzz 4:Beng 2:Zzzz 9:Beng 2:Zzzz 2:Beng 2:Zzzz 4:Beng 8:Zzzz 1:Beng 4:Zzzz 2:Beng "
  ++ "1:Zzzz 5:Beng 2:Zzzz P:Beng 2:Zzzz 3:Guru 1:Zzzz 6:Guru 4:Zzzz 2:Guru 2:Zzzz M:Guru 1:Zzzz "
  ++ "7:Guru 1:Zzzz 2:Guru 1:Zzzz 2:Guru 1:Zzzz 2:Guru 2:Zzzz 1:Guru 1:Zzzz 5:Guru 4:Zzzz 2:Guru "
  ++ "2:Zzzz 3:Guru 3:Zzzz 1:Guru 7:Zzzz 4:Guru 1:Zzzz 1:Guru 7:Zzzz H:Guru A:Zzzz 3:Gujr 1:Zzzz "
  ++ "9:Gujr 1:Zzzz 3:Gujr 1:Zzzz M:Gujr 1:Zzzz 7:Gujr 1:Zzzz 2:Gujr 1:Zzzz 5:Gujr 2:Zzzz A:Gujr "
  ++ "1:Zzzz 3:Gujr 1:Zzzz 3:Gujr 2:Zzzz 1:Gujr F:Zzzz 4:Gujr 2:Zzzz C:Gujr 7:Zzzz 7:Gujr 1:Zzzz "
  ++ "3:Orya 1:Zzzz 8:Orya 2:Zzzz 2:Orya 2:Zzzz M:Orya 1:Zzzz 7:Orya 1:Zzzz 2:Orya 1:Zzzz 5:Orya "
  ++ "2:Zzzz 9:Orya 2:Zzzz 2:Orya 2:Zzzz 3:Orya 7:Zzzz 3:Orya 4:Zzzz 2:Orya 1:Zzzz 5:Orya 2:Zzzz "
  ++ "I:Orya A:Zzzz 2:Taml 1:Zzzz 6:Taml 3:Zzzz 3:Taml 1:Zzzz 4:Taml 3:Zzzz 2:Taml 1:Zzzz 1:Taml "
  ++ "1:Zzzz 2:Taml 3:Zzzz 2:Taml 3:Zzzz 3:Taml 3:Zzzz C:Taml 4:Zzzz 5:Taml 3:Zzzz 3:Taml 1:Zzzz "
  ++ "4:Taml 2:Zzzz 1:Taml 6:Zzzz 1:Taml E:Zzzz L:Taml 5:Zzzz D:Telu 1:Zzzz 3:Telu 1:Zzzz N:Telu "
  ++ "1:Zzzz G:Telu 2:Zzzz 9:Telu 1:Zzzz 3:Telu 1:Zzzz 4:Telu 7:Zzzz 2:Telu 1:Zzzz 3:Telu 2:Zzzz "
  ++ "1:Telu 2:Zzzz 4:Telu 2:Zzzz A:Telu 7:Zzzz 9:Telu D:Knda 1:Zzzz 3:Knda 1:Zzzz N:Knda 1:Zzzz "
  ++ "A:Knda 1:Zzzz 5:Knda 2:Zzzz 9:Knda 1:Zzzz 3:Knda 1:Zzzz 4:Knda 7:Zzzz 2:Knda 6:Zzzz 2:Knda "
  ++ "1:Zzzz 4:Knda 2:Zzzz A:Knda 1:Zzzz 3:Knda C:Zzzz D:Mlym 1:Zzzz 3:Mlym 1:Zzzz 1F:Mlym 1:Zzzz "
  ++ "3:Mlym 1:Zzzz 6:Mlym 4:Zzzz G:Mlym 2:Zzzz Q:Mlym 1:Zzzz 3:Sinh 1:Zzzz I:Sinh 3:Zzzz O:Sinh "
  ++ "1:Zzzz 9:Sinh 1:Zzzz 1:Sinh 2:Zzzz 7:Sinh 3:Zzzz 1:Sinh 4:Zzzz 6:Sinh 1:Zzzz 1:Sinh 1:Zzzz "
  ++ "8:Sinh 6:Zzzz A:Sinh 2:Zzzz 3:Sinh C:Zzzz 1M:Thai 4:Zzzz 1:Zyyy S:Thai 11:Zzzz 2:Laoo 1:Zzzz "
  ++ "1:Laoo 1:Zzzz 5:Laoo 1:Zzzz O:Laoo 1:Zzzz 1:Laoo 1:Zzzz N:Laoo 2:Zzzz 5:Laoo 1:Zzzz 1:Laoo "
  ++ "1:Zzzz 7:Laoo 1:Zzzz A:Laoo 2:Zzzz 4:Laoo W:Zzzz 20:Tibt 1:Zzzz 10:Tibt 4:Zzzz 13:Tibt 1:Zzzz "
  ++ "10:Tibt 1:Zzzz F:Tibt 1:Zzzz 7:Tibt 4:Zyyy 2:Tibt 11:Zzzz 4G:Mymr 12:Geor 1:Zzzz 1:Geor 5:Zzzz "
  ++ "1:Geor 2:Zzzz 17:Geor 1:Zyyy 4:Geor 74:Hang 21:Ethi 1:Zzzz 4:Ethi 2:Zzzz 7:Ethi 1:Zzzz 1:Ethi "
  ++ "1:Zzzz 4:Ethi 2:Zzzz 15:Ethi 1:Zzzz 4:Ethi 2:Zzzz X:Ethi 1:Zzzz 4:Ethi 2:Zzzz 7:Ethi 1:Zzzz "
  ++ "1:Ethi 1:Zzzz 4:Ethi 2:Zzzz F:Ethi 1:Zzzz 1L:Ethi 1:Zzzz 4:Ethi 2:Zzzz 1V:Ethi 2:Zzzz W:Ethi "
  ++ "3:Zzzz Q:Ethi 6:Zzzz 2E:Cher 2:Zzzz 6:Cher 2:Zzzz HS:Cans T:Ogam 3:Zzzz 23:Runr 3:Zyyy B:Runr "
  ++ "7:Zzzz M:Tglg 9:Zzzz 1:Tglg L:Hano 2:Zyyy 9:Zzzz K:Buhd C:Zzzz D:Tagb 1:Zzzz 3:Tagb 1:Zzzz "
  ++ "2:Tagb C:Zzzz 2M:Khmr 2:Zzzz A:Khmr 6:Zzzz A:Khmr 6:Zzzz 2:Mong 2:Zyyy 1:Mong 1:Zyyy K:Mong "
  ++ "6:Zzzz 2H:Mong 7:Zzzz 17:Mong 5:Zzzz 1Y:Cans A:Zzzz V:Limb 1:Zzzz C:Limb 4:Zzzz C:Limb 4:Zzzz "
  ++ "1:Limb 3:Zzzz C:Limb U:Tale 2:Zzzz 5:Tale B:Zzzz 18:Talu 4:Zzzz Q:Talu 6:Zzzz B:Talu 3:Zzzz "
  ++ "2:Talu W:Khmr S:Bugi 2:Zzzz 2:Bugi 1R:Lana 1:Zzzz T:Lana 2:Zzzz B:Lana 6:Zzzz A:Lana 6:Zzzz "
  ++ "E:Lana 2:Zzzz V:Zinh 1D:Zzzz 25:Bali 1:Zzzz 1E:Bali 1S:Sund 1G:Batk 8:Zzzz 4:Batk 1K:Lepc "
  ++ "3:Zzzz F:Lepc 3:Zzzz 3:Lepc 1C:Olck B:Cyrl 5:Zzzz 17:Geor 2:Zzzz 3:Geor 8:Sund 8:Zzzz 3:Zinh "
  ++ "1:Zyyy D:Zinh 1:Zyyy 7:Zinh 4:Zyyy 1:Zinh 6:Zyyy 1:Zinh 3:Zyyy 2:Zinh 1:Zyyy 5:Zzzz 12:Latn "
  ++ "5:Grek 1:Cyrl 1D:Latn 5:Grek 4:Latn 5:Grek D:Latn 1:Cyrl 1Y:Latn 1:Grek 1S:Zinh 74:Latn M:Grek "
  ++ "2:Zzzz 6:Grek 2:Zzzz 12:Grek 2:Zzzz 6:Grek 2:Zzzz 8:Grek 1:Zzzz 1:Grek 1:Zzzz 1:Grek 1:Zzzz "
  ++ "1:Grek 1:Zzzz V:Grek 2:Zzzz 1H:Grek 1:Zzzz F:Grek 1:Zzzz E:Grek 2:Zzzz 6:Grek 1:Zzzz J:Grek "
  ++ "2:Zzzz 3:Grek 1:Zzzz 9:Grek 1:Zzzz C:Zyyy 2:Zinh 2F:Zyyy 1:Zzzz B:Zyyy 1:Latn 2:Zzzz B:Zyyy "
  ++ "1:Latn F:Zyyy 1:Zzzz D:Latn 3:Zzzz X:Zyyy F:Zzzz X:Zinh F:Zzzz 12:Zyyy 1:Grek 3:Zyyy 2:Latn "
  ++ "6:Zyyy 1:Latn R:Zyyy 1:Latn H:Zyyy 15:Latn 3:Zyyy 4:Zzzz II:Zyyy M:Zzzz B:Zyyy L:Zzzz PS:Zyyy "
  ++ "74:Brai HG:Zyyy 2:Zzzz W:Zyyy 1:Zzzz 2X:Zyyy 2O:Glag W:Latn 38:Copt 5:Zzzz 7:Copt 12:Geor "
  ++ "1:Zzzz 1:Geor 5:Zzzz 1:Geor 2:Zzzz 1K:Tfng 7:Zzzz 2:Tfng E:Zzzz 1:Tfng N:Ethi 9:Zzzz 7:Ethi "
  ++ "1:Zzzz 7:Ethi 1:Zzzz 7:Ethi 1:Zzzz 7:Ethi 1:Zzzz 7:Ethi 1:Zzzz 7:Ethi 1:Zzzz 7:Ethi 1:Zzzz "
  ++ "7:Ethi 1:Zzzz W:Cyrl 2M:Zyyy Y:Zzzz Q:Hani 1:Zzzz 2H:Hani C:Zzzz 5Y:Hani Q:Zzzz L:Zyyy 1:Hani "
  ++ "1:Zyyy 1:Hani P:Zyyy 9:Hani 4:Zinh 2:Hang 8:Zyyy 4:Hani 4:Zyyy 1:Zzzz 2E:Hira 2:Zzzz 2:Zinh "
  ++ "2:Zyyy 3:Hira 1:Zyyy 2I:Kana 2:Zyyy 3:Kana 5:Zzzz 17:Bopo 1:Zzzz 2M:Hang 1:Zzzz G:Zyyy W:Bopo "
  ++ "12:Zyyy 9:Zzzz 1:Zyyy G:Kana V:Hang 1:Zzzz 1S:Zyyy V:Hang 29:Zyyy 1B:Kana 1:Zyyy 2G:Kana "
  ++ "4O:Zyyy 534:Hani 1S:Zyyy G74:Hani WD:Yiii 3:Zzzz 1J:Yiii 9:Zzzz 1C:Lisu 8C:Vaii K:Zzzz 2O:Cyrl "
  ++ "2G:Bamu 8:Zzzz Y:Zyyy 2U:Latn 3:Zyyy 1V:Latn 2:Zzzz 2:Latn 1:Zzzz 1:Latn 1:Zzzz 8:Latn L:Zzzz "
  ++ "E:Latn 19:Sylo 3:Zzzz A:Zyyy 6:Zzzz 1K:Phag 8:Zzzz 1Y:Saur 8:Zzzz C:Saur 6:Zzzz W:Deva 1A:Kali "
  ++ "1:Zyyy 1:Kali 10:Rjng B:Zzzz 1:Rjng T:Hang 3:Zzzz 26:Java 1:Zzzz 1:Zyyy A:Java 4:Zzzz 2:Java "
  ++ "V:Mymr 1:Zzzz 1J:Cham 9:Zzzz E:Cham 2:Zzzz A:Cham 2:Zzzz 4:Cham W:Mymr 1V:Tavt O:Zzzz 5:Tavt "
  ++ "N:Mtei A:Zzzz 6:Ethi 2:Zzzz 6:Ethi 2:Zzzz 6:Ethi 9:Zzzz 7:Ethi 1:Zzzz 7:Ethi 1:Zzzz 17:Latn "
  ++ "1:Zyyy 9:Latn 1:Grek 4:Latn 2:Zyyy 4:Zzzz 28:Cher 1A:Mtei 2:Zzzz A:Mtei 6:Zzzz 8MC:Hang C:Zzzz "
  ++ "N:Hang 4:Zzzz 1D:Hang 6IS:Zzzz A6:Hani 2:Zzzz 2Y:Hani 12:Zzzz 7:Latn C:Zzzz 5:Armn 5:Zzzz "
  ++ "Q:Hebr 1:Zzzz 5:Hebr 1:Zzzz 1:Hebr 1:Zzzz 2:Hebr 1:Zzzz 2:Hebr 1:Zzzz A:Hebr 37:Arab G:Zzzz "
  ++ "A3:Arab 2:Zyyy 28:Arab 2:Zzzz 1I:Arab 7:Zzzz 1:Arab W:Zzzz G:Arab G:Zinh A:Zyyy 6:Zzzz E:Zinh "
  ++ "2:Cyrl Z:Zyyy 1:Zzzz J:Zyyy 1:Zzzz 4:Zyyy 4:Zzzz 5:Arab 1:Zzzz 3R:Arab 2:Zzzz 1:Zyyy 1:Zzzz "
  ++ "W:Zyyy Q:Latn 6:Zyyy Q:Latn B:Zyyy A:Kana 1:Zyyy 19:Kana 2:Zyyy V:Hang 3:Zzzz 6:Hang 2:Zzzz "
  ++ "6:Hang 2:Zzzz 6:Hang 2:Zzzz 3:Hang 3:Zzzz 7:Zyyy 1:Zzzz 7:Zyyy A:Zzzz 5:Zyyy 2:Zzzz C:Linb "
  ++ "1:Zzzz Q:Linb 1:Zzzz J:Linb 1:Zzzz 2:Linb 1:Zzzz F:Linb 2:Zzzz E:Linb Y:Zzzz 3F:Linb 5:Zzzz "
  ++ "3:Zyyy 4:Zzzz 19:Zyyy 3:Zzzz 9:Zyyy 27:Grek 1:Zzzz D:Zyyy 3:Zzzz 1:Grek 1B:Zzzz 19:Zyyy 1:Zinh "
  ++ "3M:Zzzz T:Lyci 3:Zzzz 1D:Cari F:Zzzz 1:Zinh R:Zyyy 4:Zzzz 10:Ital 9:Zzzz 3:Ital R:Goth 5:Zzzz "
  ++ "17:Perm 5:Zzzz U:Ugar 1:Zzzz 1:Ugar 10:Xpeo 4:Zzzz E:Xpeo 16:Zzzz 28:Dsrt 1C:Shaw U:Osma 2:Zzzz "
  ++ "A:Osma 6:Zzzz 10:Osge 4:Zzzz 10:Osge 4:Zzzz 14:Elba 8:Zzzz 1G:Aghb B:Zzzz 1:Aghb B:Vith 1:Zzzz "
  ++ "F:Vith 1:Zzzz 7:Vith 1:Zzzz 2:Vith 1:Zzzz B:Vith 1:Zzzz F:Vith 1:Zzzz 7:Vith 1:Zzzz 2:Vith "
  ++ "3:Zzzz 1G:Todr C:Zzzz 8N:Lina 9:Zzzz M:Lina A:Zzzz 8:Lina O:Zzzz 6:Latn 1:Zzzz 16:Latn 1:Zzzz "
  ++ "9:Latn 1X:Zzzz 6:Cprt 2:Zzzz 1:Cprt 1:Zzzz 18:Cprt 1:Zzzz 2:Cprt 3:Zzzz 1:Cprt 2:Zzzz 1:Cprt "
  ++ "M:Armi 1:Zzzz 9:Armi W:Palm V:Nbat 8:Zzzz 9:Nbat 1C:Zzzz J:Hatr 1:Zzzz 2:Hatr 5:Zzzz 5:Hatr "
  ++ "S:Phnx 3:Zzzz 1:Phnx Q:Lydi 5:Zzzz 1:Lydi 1S:Zzzz W:Mero O:Merc 4:Zzzz K:Merc 2:Zzzz 1A:Merc "
  ++ "4:Khar 1:Zzzz 2:Khar 5:Zzzz 8:Khar 1:Zzzz 3:Khar 1:Zzzz T:Khar 2:Zzzz 3:Khar 4:Zzzz A:Khar "
  ++ "7:Zzzz 9:Khar 7:Zzzz W:Sarb W:Narb W:Zzzz 13:Mani 4:Zzzz C:Mani 9:Zzzz 1I:Avst 3:Zzzz 7:Avst "
  ++ "M:Prti 2:Zzzz 8:Prti J:Phli 5:Zzzz 8:Phli I:Phlp 7:Zzzz 4:Phlp C:Zzzz 7:Phlp 28:Zzzz 21:Orkh "
  ++ "1J:Zzzz 1F:Hung D:Zzzz 1F:Hung 7:Zzzz 6:Hung 14:Rohg 8:Zzzz A:Rohg 6:Zzzz 12:Gara 3:Zzzz T:Gara "
  ++ "8:Zzzz 2:Gara 5S:Zzzz V:Arab 1:Zzzz 16:Yezi 1:Zzzz 3:Yezi 2:Zzzz 2:Yezi G:Zzzz 3:Arab 1J:Zzzz "
  ++ "4:Arab 14:Sogo 8:Zzzz 16:Sogd M:Zzzz Q:Ougr 12:Zzzz S:Chrs K:Zzzz N:Elym 9:Zzzz 26:Brah 4:Zzzz "
  ++ "10:Brah 9:Zzzz 1:Brah 1V:Kthi A:Zzzz 1:Kthi 2:Zzzz P:Sora 7:Zzzz A:Sora 6:Zzzz 1H:Cakm 1:Zzzz "
  ++ "I:Cakm 8:Zzzz 13:Mahj 9:Zzzz 2O:Shrd 1:Zzzz K:Sinh B:Zzzz I:Khoj 1:Zzzz 1B:Khoj 1Q:Zzzz 7:Mult "
  ++ "1:Zzzz 1:Mult 1:Zzzz 4:Mult 1:Zzzz F:Mult 1:Zzzz B:Mult 6:Zzzz 1N:Sind 5:Zzzz A:Sind 6:Zzzz "
  ++ "4:Gran 1:Zzzz 8:Gran 2:Zzzz 2:Gran 2:Zzzz M:Gran 1:Zzzz 7:Gran 1:Zzzz 2:Gran 1:Zzzz 5:Gran "
  ++ "1:Zzzz 1:Zinh 9:Gran 2:Zzzz 2:Gran 2:Zzzz 3:Gran 2:Zzzz 1:Gran 6:Zzzz 1:Gran 5:Zzzz 7:Gran "
  ++ "2:Zzzz 7:Gran 3:Zzzz 5:Gran B:Zzzz A:Tutg 1:Zzzz 1:Tutg 2:Zzzz 1:Tutg 1:Zzzz 12:Tutg 1:Zzzz "
  ++ "A:Tutg 1:Zzzz 1:Tutg 2:Zzzz 1:Tutg 1:Zzzz 4:Tutg 1:Zzzz A:Tutg 1:Zzzz 2:Tutg 8:Zzzz 2:Tutg "
  ++ "T:Zzzz 2K:Newa 1:Zzzz 5:Newa U:Zzzz 20:Tirh 8:Zzzz A:Tirh 4M:Zzzz 1I:Sidd 2:Zzzz 12:Sidd Y:Zzzz "
  ++ "1X:Modi B:Zzzz A:Modi 6:Zzzz D:Mong J:Zzzz 1M:Takr 6:Zzzz A:Takr 6:Zzzz K:Mymr S:Zzzz R:Ahom "
  ++ "2:Zzzz F:Ahom 4:Zzzz N:Ahom 55:Zzzz 1O:Dogr 2S:Zzzz 2B:Wara C:Zzzz 1:Wara 7:Diak 2:Zzzz 1:Diak "
  ++ "2:Zzzz 8:Diak 1:Zzzz 2:Diak 1:Zzzz U:Diak 1:Zzzz 2:Diak 2:Zzzz C:Diak 9:Zzzz A:Diak 1Y:Zzzz "
  ++ "8:Nand 2:Zzzz 1A:Nand 2:Zzzz B:Nand R:Zzzz 20:Zanb 8:Zzzz 2B:Soyo D:Zzzz G:Cans 1L:Pauc 7:Zzzz "
  ++ "A:Deva 52:Zzzz Y:Sunu E:Zzzz A:Sunu 6:Zzzz 9:Bhks 1:Zzzz 19:Bhks 1:Zzzz E:Bhks A:Zzzz T:Bhks "
  ++ "3:Zzzz W:Marc 2:Zzzz M:Marc 1:Zzzz E:Marc 21:Zzzz 7:Gonm 1:Zzzz 2:Gonm 1:Zzzz 18:Gonm 3:Zzzz "
  ++ "1:Gonm 1:Zzzz 2:Gonm 1:Zzzz 9:Gonm 8:Zzzz A:Gonm 6:Zzzz 6:Gong 1:Zzzz 2:Gong 1:Zzzz 11:Gong "
  ++ "1:Zzzz 2:Gong 1:Zzzz 6:Gong 7:Zzzz A:Gong 8M:Zzzz P:Maka 7:Zzzz H:Kawi 1:Zzzz 15:Kawi 3:Zzzz "
  ++ "T:Kawi 2D:Zzzz 1:Lisu F:Zzzz 1E:Taml D:Zzzz 1:Taml PM:Xsux 2U:Zzzz 33:Xsux 1:Zzzz 5:Xsux B:Zzzz "
  ++ "5G:Xsux 218:Zzzz 2R:Cpmn D:Zzzz UU:Egyp A:Zzzz 32Z:Egyp 5:Zzzz G7:Hluw 5A1:Zzzz 1M:Gukh "
  ++ "1C6:Zzzz FT:Bamu 7:Zzzz V:Mroo 1:Zzzz A:Mroo 4:Zzzz 2:Mroo 27:Tnsa 1:Zzzz A:Tnsa 6:Zzzz U:Bass "
  ++ "2:Zzzz 6:Bass A:Zzzz 1Y:Hmng A:Zzzz A:Hmng 1:Zzzz 7:Hmng 1:Zzzz L:Hmng 5:Zzzz J:Hmng C0:Zzzz "
  ++ "1M:Krai 5I:Zzzz 2J:Medf 2T:Zzzz 23:Plrd 4:Zzzz 1L:Plrd 7:Zzzz H:Plrd 1S:Zzzz 1:Tang 1:Nshu "
  ++ "2:Hani 1:Kits B:Zzzz 2:Hani E:Zzzz 4QG:Tang 8:Zzzz LC:Tang D2:Kits 15:Zzzz 1:Kits 9:Tang "
  ++ "6W7:Zzzz 4:Kana 1:Zzzz 7:Kana 1:Zzzz 2:Kana 1:Zzzz 1:Kana 7Z:Hira 3:Kana F:Zzzz 1:Hira T:Zzzz "
  ++ "3:Hira 2:Zzzz 1:Kana E:Zzzz 4:Kana 8:Zzzz B0:Nshu 1S4:Zzzz 2Z:Dupl 5:Zzzz D:Dupl 3:Zzzz 9:Dupl "
  ++ "7:Zzzz A:Dupl 2:Zzzz 4:Dupl 4:Zyyy 318:Zzzz 6Y:Zyyy 6:Zzzz C4:Zyyy 24:Zzzz 1A:Zinh 2:Zzzz "
  ++ "N:Zinh 9:Zzzz 38:Zyyy 1O:Zzzz 6U:Zyyy A:Zzzz 13:Zyyy 2:Zzzz 1Q:Zyyy 3:Zinh H:Zyyy 8:Zinh 2:Zyyy "
  ++ "7:Zinh U:Zyyy 4:Zinh 1P:Zyyy L:Zzzz 1Y:Grek 3E:Zzzz K:Zyyy C:Zzzz K:Zyyy C:Zzzz 2F:Zyyy 9:Zzzz "
  ++ "P:Zyyy 3R:Zzzz 2D:Zyyy 1:Zzzz 1Z:Zyyy 1:Zzzz 2:Zyyy 2:Zzzz 1:Zyyy 2:Zzzz 2:Zyyy 2:Zzzz 4:Zyyy "
  ++ "1:Zzzz C:Zyyy 1:Zzzz 1:Zyyy 1:Zzzz 7:Zyyy 1:Zzzz 1T:Zyyy 1:Zzzz 4:Zyyy 2:Zzzz 8:Zyyy 1:Zzzz "
  ++ "7:Zyyy 1:Zzzz S:Zyyy 1:Zzzz 4:Zyyy 1:Zzzz 5:Zyyy 1:Zzzz 1:Zyyy 3:Zzzz 7:Zyyy 1:Zzzz 9G:Zyyy "
  ++ "2:Zzzz 84:Zyyy 2:Zzzz 1E:Zyyy I4:Sgnw F:Zzzz 5:Sgnw 1:Zzzz F:Sgnw UO:Zzzz V:Latn 6:Zzzz 6:Latn "
  ++ "5X:Zzzz 7:Glag 1:Zzzz H:Glag 2:Zzzz 7:Glag 1:Zzzz 2:Glag 1:Zzzz 5:Glag 5:Zzzz 1Q:Cyrl X:Zzzz "
  ++ "1:Cyrl 34:Zzzz 19:Hmnp 3:Zzzz E:Hmnp 2:Zzzz A:Hmnp 4:Zzzz 2:Hmnp 8W:Zzzz V:Toto H:Zzzz 1M:Wcho "
  ++ "5:Zzzz 1:Wcho CW:Zzzz 16:Nagm 5Y:Zzzz 17:Onao 4:Zzzz 1:Onao DC:Zzzz 7:Ethi 1:Zzzz 4:Ethi 1:Zzzz "
  ++ "2:Ethi 1:Zzzz F:Ethi 1:Zzzz 5H:Mend 2:Zzzz G:Mend 15:Zzzz 24:Adlm 4:Zzzz A:Adlm 4:Zzzz 2:Adlm "
  ++ "LT:Zzzz 1W:Zyyy 24:Zzzz 1P:Zyyy 5E:Zzzz 4:Arab 1:Zzzz R:Arab 1:Zzzz 2:Arab 1:Zzzz 1:Arab 2:Zzzz "
  ++ "1:Arab 1:Zzzz A:Arab 1:Zzzz 4:Arab 1:Zzzz 1:Arab 1:Zzzz 1:Arab 6:Zzzz 1:Arab 4:Zzzz 1:Arab "
  ++ "1:Zzzz 1:Arab 1:Zzzz 1:Arab 1:Zzzz 3:Arab 1:Zzzz 2:Arab 1:Zzzz 1:Arab 2:Zzzz 1:Arab 1:Zzzz "
  ++ "1:Arab 1:Zzzz 1:Arab 1:Zzzz 1:Arab 1:Zzzz 1:Arab 1:Zzzz 2:Arab 1:Zzzz 1:Arab 2:Zzzz 4:Arab "
  ++ "1:Zzzz 7:Arab 1:Zzzz 4:Arab 1:Zzzz 4:Arab 1:Zzzz 1:Arab 1:Zzzz A:Arab 1:Zzzz H:Arab 5:Zzzz "
  ++ "3:Arab 1:Zzzz 5:Arab 1:Zzzz H:Arab 1G:Zzzz 2:Arab 7I:Zzzz 18:Zyyy 4:Zzzz 2S:Zyyy C:Zzzz F:Zyyy "
  ++ "2:Zzzz F:Zyyy 1:Zzzz F:Zyyy 1:Zzzz 11:Zyyy A:Zzzz 4U:Zyyy 1K:Zzzz Q:Zyyy 1:Hira 2:Zyyy D:Zzzz "
  ++ "18:Zyyy 4:Zzzz 9:Zyyy 7:Zzzz 2:Zyyy E:Zzzz 6:Zyyy 4A:Zzzz RC:Zyyy 4:Zzzz H:Zyyy 3:Zzzz D:Zyyy "
  ++ "3:Zzzz 3B:Zyyy 4:Zzzz 2N:Zyyy 6:Zzzz C:Zyyy 4:Zzzz 1:Zyyy F:Zzzz C:Zyyy 4:Zzzz 1K:Zyyy 8:Zzzz "
  ++ "A:Zyyy 6:Zzzz 14:Zyyy 8:Zzzz U:Zyyy 2:Zzzz C:Zyyy 4:Zzzz 2:Zyyy 1Q:Zzzz 9G:Zyyy C:Zzzz E:Zyyy "
  ++ "2:Zzzz D:Zyyy 3:Zzzz A:Zyyy 5:Zzzz 1K:Zyyy 7:Zzzz F:Zyyy 2:Zzzz B:Zyyy 6:Zzzz 9:Zyyy 7:Zzzz "
  ++ "43:Zyyy 1:Zzzz 2U:Zyyy SM:Zzzz WYO:Hani W:Zzzz 37E:Hani 6:Zzzz 66:Hani 2:Zzzz 4G2:Hani E:Zzzz "
  ++ "5RL:Hani F:Zzzz HA:Hani 1WI:Zzzz F2:Hani 15U:Zzzz 3T7:Hani 5:Zzzz 38G:Hani F975:Zzzz 1:Zyyy "
  ++ "U:Zzzz 2O:Zyyy 3K:Zzzz 6O:Zinh 47BK:Zzzz"

def extensionText : String :=
  "53:AvstCariCoptDuplElbaGeorGlagGongGothGrekHaniLatnLydiMahjPermShaw "
  ++ "EC:BengCyrlDevaLatnLisuThaiToto A:BopoLatn 1+2:BopoLatn 1:LatnLisu 9:LatnThai 1:BopoLatn "
  ++ "12:CherCoptCyrlGrekLatnPermSunuTale 0:CherCyrlGrekLatnOsgeSunuTaleTodr 0:CherCyrlLatnTfng "
  ++ "0:GlagLatnSunuSyrcThai 0:AghbCherCoptCyrlGothGrekLatnOsgeSyrcTfngTodr "
  ++ "0:CoptElbaGlagGothKanaLatn 0:CyrlGrekLatnPermTfng 0:CoptDuplHebrLatnPermSyrcTaleTfngTodr "
  ++ "0:ArmnCyrlDuplGothGrekHebrLatnPermSyrcTaleTfng 0:LatnTfng 0:DuplLatnSyrc 0:CherCyrlLatnOsge "
  ++ "0:CherLatnTale 0:LatnSunu 0:EthiLatn 1:LatnSunu 0:CyrlLatnTodr 1:GrekLatnPermTodr "
  ++ "F:CherDuplKanaLatnSyrcTfng 0:CherDuplLatnSyrc 0:LatnSyrc 7:LatnSunuSyrc 0:LatnSyrc "
  ++ "1:CherLatnSyrc 0:AghbCherGothLatnSunuSyrcThai G:Grek 2:Grek I:LatnOsge 5:AghbLatnTodr 4+C:Latn "
  ++ "4+1:CoptGrek 7H:CyrlPerm 0:CyrlGlag 0+1:CyrlLatn 0:CyrlGlag 75:ArmnGeorGlag "
  ++ "3M:ArabGaraNkooRohgSyrcThaaYezi E:ArabGaraNkooRohgSyrcThaaYezi 0:ArabSyrcThaa "
  ++ "2:AdlmArabGaraNkooRohgSyrcThaaYezi W:AdlmArabMandManiOugrPhlpRohgSogdSyrc A+A:ArabSyrc "
  ++ "A+9:ArabThaaYezi 6:ArabSyrc 2R:ArabRohg "
  ++ "HO:BengDevaGranGujrGuruKndaLatnMlymNandNewaOryaShrdTamlTeluTirh "
  ++ "0:BengDevaGranGujrGuruKndaLatnMlymNewaOryaTamlTeluTirh "
  ++ "H:BengDevaDogrGongGonmGranGujrGuruKndaMahjMlymNandOnaoOryaSindSinhSyloTakrTamlTeluTirh "
  ++ "0:BengDevaDogrGongGonmGranGujrGukhGuruKndaLimbMahjMlymNandOnaoOryaSindSinhSyloTakrTamlTeluTirh "
  ++ "0+9:DevaDogrKthiMahj 3A+9:BengCakmSylo 3A+9:GuruMult 3A+9:GujrKhoj 6U+D:GranTaml "
  ++ "6Q+9:KndaNandTutg NK+9:CakmMymrTale 4X:GeorGlagLatn 167+2:Runr 1Z+1:BuhdHanoTagbTglg "
  ++ "5N+1:MongPhag 1:MongPhag Y2:BengDevaGranKnda 0:Deva 0:BengDevaGranKnda 0:DevaGranKnda 0:Deva "
  ++ "0:BengDevaNewaTeluTirh 0:BengDevaTelu 0:DevaNewaShrd 0:BengDevaNewaTelu 0:DevaShrd "
  ++ "0:DevaKndaMlymOryaTamlTelu 0:Deva 0+1:DevaShrd 0+1:Deva 0:DevaShrd 0:BengDeva 0:DevaNewaTirh "
  ++ "0+5:Deva 0:DevaNandNewa 0:BengDevaShrd 0:DevaNewa 0:Deva 0:BengDevaNewaShrd 0+3:Deva "
  ++ "0:BengDevaGranKndaMlymNandOryaSinhTeluTirhTutg 0:DevaGran 0:DevaGranKndaTutg 0+1:BengDeva "
  ++ "0:Beng 0+1:DevaGran 0:Nand 5H+1:Grek 1I:CyrlLatnSyrc 1:Syrc FO:LatnMongPhag V:AdlmArab "
  ++ "A:CariGeorGlagHungLyciOrkh 2:CariGrekHungMero 42:DevaGranLatn 2LI:CoptLatn O:AvstOrkh "
  ++ "0:AvstCariGeorHungKthiLydiSamr A:Dupl 4:AdlmArabHung 1:CyrlGlag BW+F:HaniTang "
  ++ "1:BopoHangHaniHiraKanaMongYiii 0:BopoHangHaniHiraKanaMongPhagYiii 0:BopoHangHaniHiraKana 2:Hani "
  ++ "1+1:BopoHangHaniHiraKanaMongTibtYiii 0+1:BopoHangHaniHiraKanaLisuMongTibtYiii "
  ++ "0+5:BopoHangHaniHiraKanaYiii 1:BopoHangHaniHiraKana 0+7:BopoHangHaniHiraKanaYiii "
  ++ "0+3:BopoHangHaniHiraKana A+3:BopoHani 2:BopoHangHaniHiraKana 0+4:HiraKana "
  ++ "1:BopoHangHaniHiraKana 4+1:HaniHiraKana 0+1:Hani 2H+3:HiraKana 3:HiraKana "
  ++ "2I:BopoHangHaniHiraKanaYiii 0:HiraKana 43+F:Hani W+11:Hani 9:HaniTang 1C+13:Hani 1K+1C:Hani "
  ++ "F+B:Hani 1F:Hani 2G+O:Hani A+4:Hani 2O+U:Hani MLS:CyrlGlag 40+7:HaniLatn "
  ++ "88+2:DevaDogrGujrGuruKhojKndaKthiMahjMlymModiNandShrdSindTakrTirhTutg "
  ++ "0+2:DevaDogrGujrGuruKhojKndaKthiMahjModiNandShrdSindTakrTirhTutg "
  ++ "0+1:DevaDogrGujrGuruKhojKthiMahjModiSindTakrTirh "
  ++ "0:DevaDogrGujrGuruKhojKthiMahjModiShrdSindTakrTirh "
  ++ "0:DevaDogrGujrGuruKhojKthiMahjModiSindTakrTirh 53:BengDevaTutg 1:DevaTaml 1M:KaliLatnMymr "
  ++ "4G:BugiJava GHA+1:ArabNkoo 4Y:ArabThaa A:ArabThaa 1Z+1:BopoHangHaniHiraKana "
  ++ "7U+4:BopoHangHaniHiraKanaYiii A:HiraKana 19+1:HiraKana 9S+1:CpmnCprtLinb 0:CprtLinb "
  ++ "4+18:CprtLinaLinb 3+8:CprtLinb BK+R:ArabCopt 1KM:ManiOugr 1LA:GranTaml 1:GranTaml 1J+1:GranTaml "
  ++ "2HF+1:GranTaml 1:GranTaml UZ0+3:Dupl 4HO+H:Hani 63I+1:Hani"

def scriptRuns : Array (Nat × String) := decodeRuns scriptText

def splitCodes (s : String) : List String :=
  let rec go : Nat → List Char → List String
    | 0, _ => []
    | _, [] => []
    | fuel + 1, cs => String.ofList (cs.take 4) :: go fuel (cs.drop 4)
  go s.length s.toList

def extensionRanges : Array ((Nat × Nat) × List String) :=
  (decodeTagged extensionText).map fun (r, v) => (r, splitCodes v)

def scriptSet (code : String) : Ranges := runsWhere scriptRuns (· == code)

def extensionSet (code : String) : Ranges :=
  let listed := extensionRanges.toList.filter (fun (_, cs) => cs.contains code)
  let outside := subtractRanges (scriptSet code) (extensionRanges.toList.map (·.1))
  mergeRanges (outside ++ listed.map (·.1))

end Unicode

end MonitorWire
