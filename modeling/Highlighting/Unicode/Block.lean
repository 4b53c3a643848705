import Highlighting.Unicode.RangeSet

/-!
The blocks of Unicode 16.0: named intervals that do not overlap. What no block holds is a block of
its own under the name `No_Block`.
-/
namespace Highlighting.Unicode

structure Block where
  name : String
  codes : RangeSet
  deriving Inhabited

namespace Block

def named : List Block :=
  (splitAll (· == ';') text.toList).filterMap fun row =>
    match rowWords row with
    | [name, interval] => some ⟨.ofList name, .ofTable (.ofList interval)⟩
    | _ => none
where
  text : String :=
    "Basic_Latin 0-7F; Latin-1_Supplement 80-FF; Latin_Extended-A 100-17F;
      Latin_Extended-B 180-24F; IPA_Extensions 250-2AF; Spacing_Modifier_Letters 2B0-2FF;
      Combining_Diacritical_Marks 300-36F; Greek_and_Coptic 370-3FF; Cyrillic 400-4FF;
      Cyrillic_Supplement 500-52F; Armenian 530-58F; Hebrew 590-5FF; Arabic 600-6FF;
      Syriac 700-74F; Arabic_Supplement 750-77F; Thaana 780-7BF; NKo 7C0-7FF; Samaritan 800-83F;
      Mandaic 840-85F; Syriac_Supplement 860-86F; Arabic_Extended-B 870-89F;
      Arabic_Extended-A 8A0-8FF; Devanagari 900-97F; Bengali 980-9FF; Gurmukhi A00-A7F;
      Gujarati A80-AFF; Oriya B00-B7F; Tamil B80-BFF; Telugu C00-C7F; Kannada C80-CFF;
      Malayalam D00-D7F; Sinhala D80-DFF; Thai E00-E7F; Lao E80-EFF; Tibetan F00-FFF;
      Myanmar 1000-109F; Georgian 10A0-10FF; Hangul_Jamo 1100-11FF; Ethiopic 1200-137F;
      Ethiopic_Supplement 1380-139F; Cherokee 13A0-13FF;
      Unified_Canadian_Aboriginal_Syllabics 1400-167F; Ogham 1680-169F; Runic 16A0-16FF;
      Tagalog 1700-171F; Hanunoo 1720-173F; Buhid 1740-175F; Tagbanwa 1760-177F; Khmer 1780-17FF;
      Mongolian 1800-18AF; Unified_Canadian_Aboriginal_Syllabics_Extended 18B0-18FF;
      Limbu 1900-194F; Tai_Le 1950-197F; New_Tai_Lue 1980-19DF; Khmer_Symbols 19E0-19FF;
      Buginese 1A00-1A1F; Tai_Tham 1A20-1AAF; Combining_Diacritical_Marks_Extended 1AB0-1AFF;
      Balinese 1B00-1B7F; Sundanese 1B80-1BBF; Batak 1BC0-1BFF; Lepcha 1C00-1C4F;
      Ol_Chiki 1C50-1C7F; Cyrillic_Extended-C 1C80-1C8F; Georgian_Extended 1C90-1CBF;
      Sundanese_Supplement 1CC0-1CCF; Vedic_Extensions 1CD0-1CFF; Phonetic_Extensions 1D00-1D7F;
      Phonetic_Extensions_Supplement 1D80-1DBF; Combining_Diacritical_Marks_Supplement 1DC0-1DFF;
      Latin_Extended_Additional 1E00-1EFF; Greek_Extended 1F00-1FFF;
      General_Punctuation 2000-206F; Superscripts_and_Subscripts 2070-209F;
      Currency_Symbols 20A0-20CF; Combining_Diacritical_Marks_for_Symbols 20D0-20FF;
      Letterlike_Symbols 2100-214F; Number_Forms 2150-218F; Arrows 2190-21FF;
      Mathematical_Operators 2200-22FF; Miscellaneous_Technical 2300-23FF;
      Control_Pictures 2400-243F; Optical_Character_Recognition 2440-245F;
      Enclosed_Alphanumerics 2460-24FF; Box_Drawing 2500-257F; Block_Elements 2580-259F;
      Geometric_Shapes 25A0-25FF; Miscellaneous_Symbols 2600-26FF; Dingbats 2700-27BF;
      Miscellaneous_Mathematical_Symbols-A 27C0-27EF; Supplemental_Arrows-A 27F0-27FF;
      Braille_Patterns 2800-28FF; Supplemental_Arrows-B 2900-297F;
      Miscellaneous_Mathematical_Symbols-B 2980-29FF;
      Supplemental_Mathematical_Operators 2A00-2AFF; Miscellaneous_Symbols_and_Arrows 2B00-2BFF;
      Glagolitic 2C00-2C5F; Latin_Extended-C 2C60-2C7F; Coptic 2C80-2CFF;
      Georgian_Supplement 2D00-2D2F; Tifinagh 2D30-2D7F; Ethiopic_Extended 2D80-2DDF;
      Cyrillic_Extended-A 2DE0-2DFF; Supplemental_Punctuation 2E00-2E7F;
      CJK_Radicals_Supplement 2E80-2EFF; Kangxi_Radicals 2F00-2FDF;
      Ideographic_Description_Characters 2FF0-2FFF; CJK_Symbols_and_Punctuation 3000-303F;
      Hiragana 3040-309F; Katakana 30A0-30FF; Bopomofo 3100-312F;
      Hangul_Compatibility_Jamo 3130-318F; Kanbun 3190-319F; Bopomofo_Extended 31A0-31BF;
      CJK_Strokes 31C0-31EF; Katakana_Phonetic_Extensions 31F0-31FF;
      Enclosed_CJK_Letters_and_Months 3200-32FF; CJK_Compatibility 3300-33FF;
      CJK_Unified_Ideographs_Extension_A 3400-4DBF; Yijing_Hexagram_Symbols 4DC0-4DFF;
      CJK_Unified_Ideographs 4E00-9FFF; Yi_Syllables A000-A48F; Yi_Radicals A490-A4CF;
      Lisu A4D0-A4FF; Vai A500-A63F; Cyrillic_Extended-B A640-A69F; Bamum A6A0-A6FF;
      Modifier_Tone_Letters A700-A71F; Latin_Extended-D A720-A7FF; Syloti_Nagri A800-A82F;
      Common_Indic_Number_Forms A830-A83F; Phags-pa A840-A87F; Saurashtra A880-A8DF;
      Devanagari_Extended A8E0-A8FF; Kayah_Li A900-A92F; Rejang A930-A95F;
      Hangul_Jamo_Extended-A A960-A97F; Javanese A980-A9DF; Myanmar_Extended-B A9E0-A9FF;
      Cham AA00-AA5F; Myanmar_Extended-A AA60-AA7F; Tai_Viet AA80-AADF;
      Meetei_Mayek_Extensions AAE0-AAFF; Ethiopic_Extended-A AB00-AB2F;
      Latin_Extended-E AB30-AB6F; Cherokee_Supplement AB70-ABBF; Meetei_Mayek ABC0-ABFF;
      Hangul_Syllables AC00-D7AF; Hangul_Jamo_Extended-B D7B0-D7FF; High_Surrogates D800-DB7F;
      High_Private_Use_Surrogates DB80-DBFF; Low_Surrogates DC00-DFFF;
      Private_Use_Area E000-F8FF; CJK_Compatibility_Ideographs F900-FAFF;
      Alphabetic_Presentation_Forms FB00-FB4F; Arabic_Presentation_Forms-A FB50-FDFF;
      Variation_Selectors FE00-FE0F; Vertical_Forms FE10-FE1F; Combining_Half_Marks FE20-FE2F;
      CJK_Compatibility_Forms FE30-FE4F; Small_Form_Variants FE50-FE6F;
      Arabic_Presentation_Forms-B FE70-FEFF; Halfwidth_and_Fullwidth_Forms FF00-FFEF;
      Specials FFF0-FFFF; Linear_B_Syllabary 10000-1007F; Linear_B_Ideograms 10080-100FF;
      Aegean_Numbers 10100-1013F; Ancient_Greek_Numbers 10140-1018F; Ancient_Symbols 10190-101CF;
      Phaistos_Disc 101D0-101FF; Lycian 10280-1029F; Carian 102A0-102DF;
      Coptic_Epact_Numbers 102E0-102FF; Old_Italic 10300-1032F; Gothic 10330-1034F;
      Old_Permic 10350-1037F; Ugaritic 10380-1039F; Old_Persian 103A0-103DF; Deseret 10400-1044F;
      Shavian 10450-1047F; Osmanya 10480-104AF; Osage 104B0-104FF; Elbasan 10500-1052F;
      Caucasian_Albanian 10530-1056F; Vithkuqi 10570-105BF; Todhri 105C0-105FF;
      Linear_A 10600-1077F; Latin_Extended-F 10780-107BF; Cypriot_Syllabary 10800-1083F;
      Imperial_Aramaic 10840-1085F; Palmyrene 10860-1087F; Nabataean 10880-108AF;
      Hatran 108E0-108FF; Phoenician 10900-1091F; Lydian 10920-1093F;
      Meroitic_Hieroglyphs 10980-1099F; Meroitic_Cursive 109A0-109FF; Kharoshthi 10A00-10A5F;
      Old_South_Arabian 10A60-10A7F; Old_North_Arabian 10A80-10A9F; Manichaean 10AC0-10AFF;
      Avestan 10B00-10B3F; Inscriptional_Parthian 10B40-10B5F; Inscriptional_Pahlavi 10B60-10B7F;
      Psalter_Pahlavi 10B80-10BAF; Old_Turkic 10C00-10C4F; Old_Hungarian 10C80-10CFF;
      Hanifi_Rohingya 10D00-10D3F; Garay 10D40-10D8F; Rumi_Numeral_Symbols 10E60-10E7F;
      Yezidi 10E80-10EBF; Arabic_Extended-C 10EC0-10EFF; Old_Sogdian 10F00-10F2F;
      Sogdian 10F30-10F6F; Old_Uyghur 10F70-10FAF; Chorasmian 10FB0-10FDF; Elymaic 10FE0-10FFF;
      Brahmi 11000-1107F; Kaithi 11080-110CF; Sora_Sompeng 110D0-110FF; Chakma 11100-1114F;
      Mahajani 11150-1117F; Sharada 11180-111DF; Sinhala_Archaic_Numbers 111E0-111FF;
      Khojki 11200-1124F; Multani 11280-112AF; Khudawadi 112B0-112FF; Grantha 11300-1137F;
      Tulu-Tigalari 11380-113FF; Newa 11400-1147F; Tirhuta 11480-114DF; Siddham 11580-115FF;
      Modi 11600-1165F; Mongolian_Supplement 11660-1167F; Takri 11680-116CF;
      Myanmar_Extended-C 116D0-116FF; Ahom 11700-1174F; Dogra 11800-1184F;
      Warang_Citi 118A0-118FF; Dives_Akuru 11900-1195F; Nandinagari 119A0-119FF;
      Zanabazar_Square 11A00-11A4F; Soyombo 11A50-11AAF;
      Unified_Canadian_Aboriginal_Syllabics_Extended-A 11AB0-11ABF; Pau_Cin_Hau 11AC0-11AFF;
      Devanagari_Extended-A 11B00-11B5F; Sunuwar 11BC0-11BFF; Bhaiksuki 11C00-11C6F;
      Marchen 11C70-11CBF; Masaram_Gondi 11D00-11D5F; Gunjala_Gondi 11D60-11DAF;
      Makasar 11EE0-11EFF; Kawi 11F00-11F5F; Lisu_Supplement 11FB0-11FBF;
      Tamil_Supplement 11FC0-11FFF; Cuneiform 12000-123FF;
      Cuneiform_Numbers_and_Punctuation 12400-1247F; Early_Dynastic_Cuneiform 12480-1254F;
      Cypro-Minoan 12F90-12FFF; Egyptian_Hieroglyphs 13000-1342F;
      Egyptian_Hieroglyph_Format_Controls 13430-1345F;
      Egyptian_Hieroglyphs_Extended-A 13460-143FF; Anatolian_Hieroglyphs 14400-1467F;
      Gurung_Khema 16100-1613F; Bamum_Supplement 16800-16A3F; Mro 16A40-16A6F;
      Tangsa 16A70-16ACF; Bassa_Vah 16AD0-16AFF; Pahawh_Hmong 16B00-16B8F; Kirat_Rai 16D40-16D7F;
      Medefaidrin 16E40-16E9F; Miao 16F00-16F9F; Ideographic_Symbols_and_Punctuation 16FE0-16FFF;
      Tangut 17000-187FF; Tangut_Components 18800-18AFF; Khitan_Small_Script 18B00-18CFF;
      Tangut_Supplement 18D00-18D7F; Kana_Extended-B 1AFF0-1AFFF; Kana_Supplement 1B000-1B0FF;
      Kana_Extended-A 1B100-1B12F; Small_Kana_Extension 1B130-1B16F; Nushu 1B170-1B2FF;
      Duployan 1BC00-1BC9F; Shorthand_Format_Controls 1BCA0-1BCAF;
      Symbols_for_Legacy_Computing_Supplement 1CC00-1CEBF; Znamenny_Musical_Notation 1CF00-1CFCF;
      Byzantine_Musical_Symbols 1D000-1D0FF; Musical_Symbols 1D100-1D1FF;
      Ancient_Greek_Musical_Notation 1D200-1D24F; Kaktovik_Numerals 1D2C0-1D2DF;
      Mayan_Numerals 1D2E0-1D2FF; Tai_Xuan_Jing_Symbols 1D300-1D35F;
      Counting_Rod_Numerals 1D360-1D37F; Mathematical_Alphanumeric_Symbols 1D400-1D7FF;
      Sutton_SignWriting 1D800-1DAAF; Latin_Extended-G 1DF00-1DFFF;
      Glagolitic_Supplement 1E000-1E02F; Cyrillic_Extended-D 1E030-1E08F;
      Nyiakeng_Puachue_Hmong 1E100-1E14F; Toto 1E290-1E2BF; Wancho 1E2C0-1E2FF;
      Nag_Mundari 1E4D0-1E4FF; Ol_Onal 1E5D0-1E5FF; Ethiopic_Extended-B 1E7E0-1E7FF;
      Mende_Kikakui 1E800-1E8DF; Adlam 1E900-1E95F; Indic_Siyaq_Numbers 1EC70-1ECBF;
      Ottoman_Siyaq_Numbers 1ED00-1ED4F; Arabic_Mathematical_Alphabetic_Symbols 1EE00-1EEFF;
      Mahjong_Tiles 1F000-1F02F; Domino_Tiles 1F030-1F09F; Playing_Cards 1F0A0-1F0FF;
      Enclosed_Alphanumeric_Supplement 1F100-1F1FF; Enclosed_Ideographic_Supplement 1F200-1F2FF;
      Miscellaneous_Symbols_and_Pictographs 1F300-1F5FF; Emoticons 1F600-1F64F;
      Ornamental_Dingbats 1F650-1F67F; Transport_and_Map_Symbols 1F680-1F6FF;
      Alchemical_Symbols 1F700-1F77F; Geometric_Shapes_Extended 1F780-1F7FF;
      Supplemental_Arrows-C 1F800-1F8FF; Supplemental_Symbols_and_Pictographs 1F900-1F9FF;
      Chess_Symbols 1FA00-1FA6F; Symbols_and_Pictographs_Extended-A 1FA70-1FAFF;
      Symbols_for_Legacy_Computing 1FB00-1FBFF; CJK_Unified_Ideographs_Extension_B 20000-2A6DF;
      CJK_Unified_Ideographs_Extension_C 2A700-2B73F;
      CJK_Unified_Ideographs_Extension_D 2B740-2B81F;
      CJK_Unified_Ideographs_Extension_E 2B820-2CEAF;
      CJK_Unified_Ideographs_Extension_F 2CEB0-2EBEF;
      CJK_Unified_Ideographs_Extension_I 2EBF0-2EE5F;
      CJK_Compatibility_Ideographs_Supplement 2F800-2FA1F;
      CJK_Unified_Ideographs_Extension_G 30000-3134F;
      CJK_Unified_Ideographs_Extension_H 31350-323AF; Tags E0000-E007F;
      Variation_Selectors_Supplement E0100-E01EF; Supplementary_Private_Use_Area-A F0000-FFFFF;
      Supplementary_Private_Use_Area-B 100000-10FFFF"

def noBlock : Block := ⟨"No_Block", (RangeSet.unions (named.map (·.codes))).complement⟩

def all : List Block := noBlock :: named

end Block

end Highlighting.Unicode
