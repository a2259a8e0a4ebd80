import Placeholders.Text.CharSet

/-!
# Scripts

The scripts that characters belong to.

* Every character is counted to one script; signs of many scripts are counted to `Common`, marks
  that take the script of what they stand on to `Inherited`.
* Some characters are used in several scripts. These are listed again as shared by each of them, and
  the wide reading of `Common` and `Inherited` leaves them out.
-/

namespace Placeholders.Text

/-- A script: its names, the characters counted to it, and others that it shares. -/
structure Script where
  names : List String
  own : String
  shared : String

namespace Script

/-- The scripts. -/
def all : List Script := [
  { names := ["Adlam", "Adlm"]
    own := "1E900-1E94B 1E950-1E959 1E95E-1E95F"
    shared := "61F 640 204F 2E41" },
  { names := ["Ahom"]
    own := "11700-1171A 1171D-1172B 11730-11746"
    shared := "" },
  { names := ["Anatolian_Hieroglyphs", "Hluw"]
    own := "14400-14646"
    shared := "" },
  { names := ["Arabic", "Arab"]
    own := "
      600-604 606-60B 60D-61A 61C-61E 620-63F 641-64A 656-66F 671-6DC 6DE-6FF 750-77F 870-88E
      890-891 897-8E1 8E3-8FF FB50-FBC2 FBD3-FD3D FD40-FD8F FD92-FDC7 FDCF FDF0-FDFF FE70-FE74
      FE76-FEFC 10E60-10E7E 10EC2-10EC4 10EFC-10EFF 1EE00-1EE03 1EE05-1EE1F 1EE21-1EE22 1EE24 1EE27
      1EE29-1EE32 1EE34-1EE37 1EE39 1EE3B 1EE42 1EE47~1EE4B 1EE4D-1EE4F 1EE51-1EE52 1EE54
      1EE57~1EE5F 1EE61-1EE62 1EE64 1EE67-1EE6A 1EE6C-1EE72 1EE74-1EE77 1EE79-1EE7C 1EE7E
      1EE80-1EE89 1EE8B-1EE9B 1EEA1-1EEA3 1EEA5-1EEA9 1EEAB-1EEBB 1EEF0-1EEF1
      "
    shared := "60C 61B 61F 640 64B-655 670 204F 2E41 FD3E-FD3F 102E0-102FB" },
  { names := ["Armenian", "Armn"]
    own := "531-556 559-58A 58D-58F FB13-FB17"
    shared := "308" },
  { names := ["Avestan", "Avst"]
    own := "10B00-10B35 10B39-10B3F"
    shared := "B7 2E30-2E31" },
  { names := ["Balinese", "Bali"]
    own := "1B00-1B4C 1B4E-1B7F"
    shared := "" },
  { names := ["Bamum", "Bamu"]
    own := "A6A0-A6F7 16800-16A38"
    shared := "" },
  { names := ["Bassa_Vah", "Bass"]
    own := "16AD0-16AED 16AF0-16AF5"
    shared := "" },
  { names := ["Batak", "Batk"]
    own := "1BC0-1BF3 1BFC-1BFF"
    shared := "" },
  { names := ["Bengali", "Beng"]
    own := "
      980-983 985-98C 98F-990 993-9A8 9AA-9B0 9B2 9B6-9B9 9BC-9C4 9C7-9C8 9CB-9CE 9D7 9DC-9DD
      9DF-9E3 9E6-9FE
      "
    shared := "
      2BC 951-952 964-965 1CD0 1CD2 1CD5-1CD6 1CD8 1CE1 1CEA 1CED 1CF2 1CF5-1CF7 A8F1
      " },
  { names := ["Bhaiksuki", "Bhks"]
    own := "11C00-11C08 11C0A-11C36 11C38-11C45 11C50-11C6C"
    shared := "" },
  { names := ["Bopomofo", "Bopo"]
    own := "2EA-2EB 3105-312F 31A0-31BF"
    shared := "
      2C7 2C9-2CB 2D9 3001-3003 3008-3011 3013-301F 302A-302D 3030 3037 30FB FE45-FE46 FF61-FF65
      " },
  { names := ["Brahmi", "Brah"]
    own := "11000-1104D 11052-11075 1107F"
    shared := "" },
  { names := ["Braille", "Brai"]
    own := "2800-28FF"
    shared := "" },
  { names := ["Buginese", "Bugi"]
    own := "1A00-1A1B 1A1E-1A1F"
    shared := "A9CF" },
  { names := ["Buhid", "Buhd"]
    own := "1740-1753"
    shared := "1735-1736" },
  { names := ["Canadian_Aboriginal", "Cans"]
    own := "1400-167F 18B0-18F5 11AB0-11ABF"
    shared := "" },
  { names := ["Carian", "Cari"]
    own := "102A0-102D0"
    shared := "B7 205A 205D 2E31" },
  { names := ["Caucasian_Albanian", "Aghb"]
    own := "10530-10563 1056F"
    shared := "304 331 35E" },
  { names := ["Chakma", "Cakm"]
    own := "11100-11134 11136-11147"
    shared := "9E6-9EF 1040-1049" },
  { names := ["Cham"]
    own := "AA00-AA36 AA40-AA4D AA50-AA59 AA5C-AA5F"
    shared := "" },
  { names := ["Cherokee", "Cher"]
    own := "13A0-13F5 13F8-13FD AB70-ABBF"
    shared := "300-302 304 30B-30C 323-324 330-331" },
  { names := ["Chorasmian", "Chrs"]
    own := "10FB0-10FCB"
    shared := "" },
  { names := ["Common", "Zyyy"]
    own := "
      0-40 5B-60 7B-A9 AB-B9 BB-BF D7 F7 2B9-2DF 2E5-2E9 2EC-2FF 374 37E 385 387 605 60C 61B 61F 640
      6DD 8E2 964-965 E3F FD5-FD8 10FB 16EB-16ED 1735-1736 1802-1803 1805 1CD3 1CE1 1CE9-1CEC
      1CEE-1CF3 1CF5-1CF7 1CFA 2000-200B 200E-2064 2066-2070 2074-207E 2080-208E 20A0-20C0 2100-2125
      2127-2129 212C-2131 2133-214D 214F-215F 2189-218B 2190-2429 2440-244A 2460-27FF 2900-2B73
      2B76-2B95 2B97-2BFF 2E00-2E5D 2FF0-3004 3006 3008-3020 3030-3037 303C-303F 309B-309C 30A0
      30FB-30FC 3190-319F 31C0-31E5 31EF 3220-325F 327F-32CF 32FF 3358-33FF 4DC0-4DFF A700-A721
      A788-A78A A830-A839 A92E A9CF AB5B AB6A-AB6B FD3E-FD3F FE10-FE19 FE30-FE52 FE54-FE66 FE68-FE6B
      FEFF FF01-FF20 FF3B-FF40 FF5B-FF65 FF70 FF9E-FF9F FFE0-FFE6 FFE8-FFEE FFF9-FFFD 10100-10102
      10107-10133 10137-1013F 10190-1019C 101D0-101FC 102E1-102FB 1BCA0-1BCA3 1CC00-1CCF9
      1CD00-1CEB3 1CF50-1CFC3 1D000-1D0F5 1D100-1D126 1D129-1D166 1D16A-1D17A 1D183-1D184
      1D18C-1D1A9 1D1AE-1D1EA 1D2C0-1D2D3 1D2E0-1D2F3 1D300-1D356 1D360-1D378 1D400-1D454
      1D456-1D49C 1D49E-1D49F 1D4A2 1D4A5-1D4A6 1D4A9-1D4AC 1D4AE-1D4B9 1D4BB 1D4BD-1D4C3
      1D4C5-1D505 1D507-1D50A 1D50D-1D514 1D516-1D51C 1D51E-1D539 1D53B-1D53E 1D540-1D544 1D546
      1D54A-1D550 1D552-1D6A5 1D6A8-1D7CB 1D7CE-1D7FF 1EC71-1ECB4 1ED01-1ED3D 1F000-1F02B
      1F030-1F093 1F0A0-1F0AE 1F0B1-1F0BF 1F0C1-1F0CF 1F0D1-1F0F5 1F100-1F1AD 1F1E6-1F1FF
      1F201-1F202 1F210-1F23B 1F240-1F248 1F250-1F251 1F260-1F265 1F300-1F6D7 1F6DC-1F6EC
      1F6F0-1F6FC 1F700-1F776 1F77B-1F7D9 1F7E0-1F7EB 1F7F0 1F800-1F80B 1F810-1F847 1F850-1F859
      1F860-1F887 1F890-1F8AD 1F8B0-1F8BB 1F8C0-1F8C1 1F900-1FA53 1FA60-1FA6D 1FA70-1FA7C
      1FA80-1FA89 1FA8F-1FAC6 1FACE-1FADC 1FADF-1FAE9 1FAF0-1FAF8 1FB00-1FB92 1FB94-1FBF9 E0001
      E0020-E007F
      "
    shared := "" },
  { names := ["Coptic", "Copt", "Qaac"]
    own := "3E2-3EF 2C80-2CF3 2CF9-2CFF"
    shared := "B7 300 304-305 307 374-375 2E17 102E0-102FB" },
  { names := ["Cuneiform", "Xsux"]
    own := "12000-12399 12400-1246E 12470-12474 12480-12543"
    shared := "" },
  { names := ["Cypriot", "Cprt"]
    own := "10800-10805 10808 1080A-10835 10837-10838 1083C 1083F"
    shared := "10100-10102 10107-10133 10137-1013F" },
  { names := ["Cypro_Minoan", "Cpmn"]
    own := "12F90-12FF2"
    shared := "10100-10101" },
  { names := ["Cyrillic", "Cyrl"]
    own := "
      400-484 487-52F 1C80-1C8A 1D2B 1D78 2DE0-2DFF A640-A69F FE2E-FE2F 1E030-1E06D 1E08F
      "
    shared := "2BC 300-302 304~308 30B 311 485-486 1DF8 2E43" },
  { names := ["Deseret", "Dsrt"]
    own := "10400-1044F"
    shared := "" },
  { names := ["Devanagari", "Deva"]
    own := "900-950 955-963 966-97F A8E0-A8FF 11B00-11B09"
    shared := "2BC 951-952 964-965 1CD0-1CF6 1CF8-1CF9 20F0 A830-A839" },
  { names := ["Dives_Akuru", "Diak"]
    own := "
      11900-11906 11909 1190C-11913 11915-11916 11918-11935 11937-11938 1193B-11946 11950-11959
      "
    shared := "" },
  { names := ["Dogra", "Dogr"]
    own := "11800-1183B"
    shared := "964-96F A830-A839" },
  { names := ["Duployan", "Dupl"]
    own := "1BC00-1BC6A 1BC70-1BC7C 1BC80-1BC88 1BC90-1BC99 1BC9C-1BC9F"
    shared := "B7 307-308 30A 323-324 2E3C 1BCA0-1BCA3" },
  { names := ["Egyptian_Hieroglyphs", "Egyp"]
    own := "13000-13455 13460-143FA"
    shared := "" },
  { names := ["Elbasan", "Elba"]
    own := "10500-10527"
    shared := "B7 305" },
  { names := ["Elymaic", "Elym"]
    own := "10FE0-10FF6"
    shared := "" },
  { names := ["Ethiopic", "Ethi"]
    own := "
      1200-1248 124A-124D 1250-1256 1258 125A-125D 1260-1288 128A-128D 1290-12B0 12B2-12B5 12B8-12BE
      12C0 12C2-12C5 12C8-12D6 12D8-1310 1312-1315 1318-135A 135D-137C 1380-1399 2D80-2D96 2DA0-2DA6
      2DA8-2DAE 2DB0-2DB6 2DB8-2DBE 2DC0-2DC6 2DC8-2DCE 2DD0-2DD6 2DD8-2DDE AB01-AB06 AB09-AB0E
      AB11-AB16 AB20-AB26 AB28-AB2E 1E7E0-1E7E6 1E7E8-1E7EB 1E7ED-1E7EE 1E7F0-1E7FE
      "
    shared := "30E" },
  { names := ["Garay", "Gara"]
    own := "10D40-10D65 10D69-10D85 10D8E-10D8F"
    shared := "60C 61B 61F" },
  { names := ["Georgian", "Geor"]
    own := "
      10A0-10C5 10C7 10CD 10D0-10FA 10FC-10FF 1C90-1CBA 1CBD-1CBF 2D00-2D25 2D27 2D2D
      "
    shared := "B7 589 10FB 205A 2E31" },
  { names := ["Glagolitic", "Glag"]
    own := "
      2C00-2C5F 1E000-1E006 1E008-1E018 1E01B-1E021 1E023-1E024 1E026-1E02A
      "
    shared := "B7 303 305 484 487 589 10FB 205A 2E43 A66F" },
  { names := ["Gothic", "Goth"]
    own := "10330-1034A"
    shared := "B7 304-305 308 331" },
  { names := ["Grantha", "Gran"]
    own := "
      11300-11303 11305-1130C 1130F-11310 11313-11328 1132A-11330 11332-11333 11335-11339
      1133C-11344 11347-11348 1134B-1134D 11350 11357 1135D-11363 11366-1136C 11370-11374
      "
    shared := "
      951-952 964-965 BE6-BF3 1CD0 1CD2-1CD3 1CF2-1CF4 1CF8-1CF9 20F0 1133B 11FD0-11FD1 11FD3
      " },
  { names := ["Greek", "Grek"]
    own := "
      370-373 375-377 37A-37D 37F 384 386 388-38A 38C 38E-3A1 3A3-3E1 3F0-3FF 1D26-1D2A 1D5D-1D61
      1D66-1D6A 1DBF 1F00-1F15 1F18-1F1D 1F20-1F45 1F48-1F4D 1F50-1F57 1F59~1F5D 1F5F-1F7D 1F80-1FB4
      1FB6-1FC4 1FC6-1FD3 1FD6-1FDB 1FDD-1FEF 1FF2-1FF4 1FF6-1FFE 2126 AB65 10140-1018E 101A0
      1D200-1D245
      "
    shared := "B7 300-301 304~308 313 342 345 374 1DC0-1DC1 205D" },
  { names := ["Gujarati", "Gujr"]
    own := "
      A81-A83 A85-A8D A8F-A91 A93-AA8 AAA-AB0 AB2-AB3 AB5-AB9 ABC-AC5 AC7-AC9 ACB-ACD AD0 AE0-AE3
      AE6-AF1 AF9-AFF
      "
    shared := "951-952 964-965 A830-A839" },
  { names := ["Gunjala_Gondi", "Gong"]
    own := "
      11D60-11D65 11D67-11D68 11D6A-11D8E 11D90-11D91 11D93-11D98 11DA0-11DA9
      "
    shared := "B7 964-965" },
  { names := ["Gurmukhi", "Guru"]
    own := "
      A01-A03 A05-A0A A0F-A10 A13-A28 A2A-A30 A32-A33 A35-A36 A38-A39 A3C A3E-A42 A47-A48 A4B-A4D
      A51 A59-A5C A5E A66-A76
      "
    shared := "951-952 964-965 A830-A839" },
  { names := ["Gurung_Khema", "Gukh"]
    own := "16100-16139"
    shared := "965" },
  { names := ["Han", "Hani"]
    own := "
      2E80-2E99 2E9B-2EF3 2F00-2FD5 3005 3007 3021-3029 3038-303B 3400-4DBF 4E00-9FFF F900-FA6D
      FA70-FAD9 16FE2-16FE3 16FF0-16FF1 20000-2A6DF 2A700-2B739 2B740-2B81D 2B820-2CEA1 2CEB0-2EBE0
      2EBF0-2EE5D 2F800-2FA1D 30000-3134A 31350-323AF
      "
    shared := "
      B7 2FF0-2FFF 3001-3003 3006 3008-3011 3013-301F 302A-302D 3030 3037 303C-303F 30FB 3190-319F
      31C0-31E5 31EF 3220-3247 3280-32B0 32C0-32CB 32FF 3358-3370 337B-337F 33E0-33FE A700-A707
      FE45-FE46 FF61-FF65 1D360-1D371 1F250-1F251
      " },
  { names := ["Hangul", "Hang"]
    own := "
      1100-11FF 302E-302F 3131-318E 3200-321E 3260-327E A960-A97C AC00-D7A3 D7B0-D7C6 D7CB-D7FB
      FFA0-FFBE FFC2-FFC7 FFCA-FFCF FFD2-FFD7 FFDA-FFDC
      "
    shared := "
      3001-3003 3008-3011 3013-301F 3030 3037 30FB FE45-FE46 FF61-FF65
      " },
  { names := ["Hanifi_Rohingya", "Rohg"]
    own := "10D00-10D27 10D30-10D39"
    shared := "60C 61B 61F 640 6D4" },
  { names := ["Hanunoo", "Hano"]
    own := "1720-1734"
    shared := "1735-1736" },
  { names := ["Hatran", "Hatr"]
    own := "108E0-108F2 108F4-108F5 108FB-108FF"
    shared := "" },
  { names := ["Hebrew", "Hebr"]
    own := "
      591-5C7 5D0-5EA 5EF-5F4 FB1D-FB36 FB38-FB3C FB3E FB40-FB41 FB43-FB44 FB46-FB4F
      "
    shared := "307-308" },
  { names := ["Hiragana", "Hira"]
    own := "3041-3096 309D-309F 1B001-1B11F 1B132 1B150-1B152 1F200"
    shared := "
      3001-3003 3008-3011 3013-301F 3030-3035 3037 303C-303D 3099-309C 30A0 30FB-30FC FE45-FE46
      FF61-FF65 FF70 FF9E-FF9F
      " },
  { names := ["Imperial_Aramaic", "Armi"]
    own := "10840-10855 10857-1085F"
    shared := "" },
  { names := ["Inherited", "Zinh", "Qaai"]
    own := "
      300-36F 485-486 64B-655 670 951-954 1AB0-1ACE 1CD0-1CD2 1CD4-1CE0 1CE2-1CE8 1CED 1CF4
      1CF8-1CF9 1DC0-1DFF 200C-200D 20D0-20F0 302A-302D 3099-309A FE00-FE0F FE20-FE2D 101FD 102E0
      1133B 1CF00-1CF2D 1CF30-1CF46 1D167-1D169 1D17B-1D182 1D185-1D18B 1D1AA-1D1AD E0100-E01EF
      "
    shared := "" },
  { names := ["Inscriptional_Pahlavi", "Phli"]
    own := "10B60-10B72 10B78-10B7F"
    shared := "" },
  { names := ["Inscriptional_Parthian", "Prti"]
    own := "10B40-10B55 10B58-10B5F"
    shared := "" },
  { names := ["Javanese", "Java"]
    own := "A980-A9CD A9D0-A9D9 A9DE-A9DF"
    shared := "A9CF" },
  { names := ["Kaithi", "Kthi"]
    own := "11080-110C2 110CD"
    shared := "966-96F 2E31 A830-A839" },
  { names := ["Kannada", "Knda"]
    own := "
      C80-C8C C8E-C90 C92-CA8 CAA-CB3 CB5-CB9 CBC-CC4 CC6-CC8 CCA-CCD CD5-CD6 CDD-CDE CE0-CE3
      CE6-CEF CF1-CF3
      "
    shared := "951-952 964-965 1CD0 1CD2-1CD3 1CDA 1CF2 1CF4 A830-A835" },
  { names := ["Katakana", "Kana"]
    own := "
      30A1-30FA 30FD-30FF 31F0-31FF 32D0-32FE 3300-3357 FF66-FF6F FF71-FF9D 1AFF0-1AFF3 1AFF5-1AFFB
      1AFFD-1AFFE 1B000 1B120-1B122 1B155 1B164-1B167
      "
    shared := "
      305 323 3001-3003 3008-3011 3013-301F 3030-3035 3037 303C-303D 3099-309C 30A0 30FB-30FC
      FE45-FE46 FF61-FF65 FF70 FF9E-FF9F
      " },
  { names := ["Kawi"]
    own := "11F00-11F10 11F12-11F3A 11F3E-11F5A"
    shared := "" },
  { names := ["Kayah_Li", "Kali"]
    own := "A900-A92D A92F"
    shared := "A92E" },
  { names := ["Kharoshthi", "Khar"]
    own := "
      10A00-10A03 10A05-10A06 10A0C-10A13 10A15-10A17 10A19-10A35 10A38-10A3A 10A3F-10A48
      10A50-10A58
      "
    shared := "" },
  { names := ["Khitan_Small_Script", "Kits"]
    own := "16FE4 18B00-18CD5 18CFF"
    shared := "" },
  { names := ["Khmer", "Khmr"]
    own := "1780-17DD 17E0-17E9 17F0-17F9 19E0-19FF"
    shared := "" },
  { names := ["Khojki", "Khoj"]
    own := "11200-11211 11213-11241"
    shared := "AE6-AEF A830-A839" },
  { names := ["Khudawadi", "Sind"]
    own := "112B0-112EA 112F0-112F9"
    shared := "964-965 A830-A839" },
  { names := ["Kirat_Rai", "Krai"]
    own := "16D40-16D79"
    shared := "" },
  { names := ["Lao", "Laoo"]
    own := "
      E81-E82 E84 E86-E8A E8C-EA3 EA5 EA7-EBD EC0-EC4 EC6 EC8-ECE ED0-ED9 EDC-EDF
      "
    shared := "" },
  { names := ["Latin", "Latn"]
    own := "
      41-5A 61-7A AA BA C0-D6 D8-F6 F8-2B8 2E0-2E4 1D00-1D25 1D2C-1D5C 1D62-1D65 1D6B-1D77 1D79-1DBE
      1E00-1EFF 2071 207F 2090-209C 212A-212B 2132 214E 2160-2188 2C60-2C7F A722-A787 A78B-A7CD
      A7D0-A7D1 A7D3 A7D5-A7DC A7F2-A7FF AB30-AB5A AB5C-AB64 AB66-AB69 FB00-FB06 FF21-FF3A FF41-FF5A
      10780-10785 10787-107B0 107B2-107BA 1DF00-1DF1E 1DF25-1DF2A
      "
    shared := "
      B7 2BC 2C7 2C9-2CB 2CD 2D7 2D9 300-30E 310-311 313 323-325 32D-32E 330-331 358 35E 363-36F
      485-486 951-952 10FB 1DF8 202F 20F0 2E17 A700-A707 A92E
      " },
  { names := ["Lepcha", "Lepc"]
    own := "1C00-1C37 1C3B-1C49 1C4D-1C4F"
    shared := "" },
  { names := ["Limbu", "Limb"]
    own := "1900-191E 1920-192B 1930-193B 1940 1944-194F"
    shared := "965" },
  { names := ["Linear_A", "Lina"]
    own := "10600-10736 10740-10755 10760-10767"
    shared := "10107-10133" },
  { names := ["Linear_B", "Linb"]
    own := "
      10000-1000B 1000D-10026 10028-1003A 1003C-1003D 1003F-1004D 10050-1005D 10080-100FA
      "
    shared := "10100-10102 10107-10133 10137-1013F" },
  { names := ["Lisu"]
    own := "A4D0-A4FF 11FB0"
    shared := "2BC 2CD 300A-300B" },
  { names := ["Lycian", "Lyci"]
    own := "10280-1029C"
    shared := "205A" },
  { names := ["Lydian", "Lydi"]
    own := "10920-10939 1093F"
    shared := "B7 2E31" },
  { names := ["Mahajani", "Mahj"]
    own := "11150-11176"
    shared := "B7 964-96F A830-A839" },
  { names := ["Makasar", "Maka"]
    own := "11EE0-11EF8"
    shared := "" },
  { names := ["Malayalam", "Mlym"]
    own := "D00-D0C D0E-D10 D12-D44 D46-D48 D4A-D4F D54-D63 D66-D7F"
    shared := "951-952 964-965 1CDA 1CF2 A830-A832" },
  { names := ["Mandaic", "Mand"]
    own := "840-85B 85E"
    shared := "640" },
  { names := ["Manichaean", "Mani"]
    own := "10AC0-10AE6 10AEB-10AF6"
    shared := "640" },
  { names := ["Marchen", "Marc"]
    own := "11C70-11C8F 11C92-11CA7 11CA9-11CB6"
    shared := "" },
  { names := ["Masaram_Gondi", "Gonm"]
    own := "
      11D00-11D06 11D08-11D09 11D0B-11D36 11D3A 11D3C-11D3D 11D3F-11D47 11D50-11D59
      "
    shared := "964-965" },
  { names := ["Medefaidrin", "Medf"]
    own := "16E40-16E9A"
    shared := "" },
  { names := ["Meetei_Mayek", "Mtei"]
    own := "AAE0-AAF6 ABC0-ABED ABF0-ABF9"
    shared := "" },
  { names := ["Mende_Kikakui", "Mend"]
    own := "1E800-1E8C4 1E8C7-1E8D6"
    shared := "" },
  { names := ["Meroitic_Cursive", "Merc"]
    own := "109A0-109B7 109BC-109CF 109D2-109FF"
    shared := "" },
  { names := ["Meroitic_Hieroglyphs", "Mero"]
    own := "10980-1099F"
    shared := "205D" },
  { names := ["Miao", "Plrd"]
    own := "16F00-16F4A 16F4F-16F87 16F8F-16F9F"
    shared := "" },
  { names := ["Modi"]
    own := "11600-11644 11650-11659"
    shared := "A830-A839" },
  { names := ["Mongolian", "Mong"]
    own := "1800-1801 1804 1806-1819 1820-1878 1880-18AA 11660-1166C"
    shared := "1802-1803 1805 202F 3001-3002 3008-300B" },
  { names := ["Mro", "Mroo"]
    own := "16A40-16A5E 16A60-16A69 16A6E-16A6F"
    shared := "" },
  { names := ["Multani", "Mult"]
    own := "11280-11286 11288 1128A-1128D 1128F-1129D 1129F-112A9"
    shared := "A66-A6F" },
  { names := ["Myanmar", "Mymr"]
    own := "1000-109F A9E0-A9FE AA60-AA7F 116D0-116E3"
    shared := "A92E" },
  { names := ["Nabataean", "Nbat"]
    own := "10880-1089E 108A7-108AF"
    shared := "" },
  { names := ["Nag_Mundari", "Nagm"]
    own := "1E4D0-1E4F9"
    shared := "" },
  { names := ["Nandinagari", "Nand"]
    own := "119A0-119A7 119AA-119D7 119DA-119E4"
    shared := "951 964-965 CE6-CEF 1CE9 1CF2 1CFA A830-A835" },
  { names := ["New_Tai_Lue", "Talu"]
    own := "1980-19AB 19B0-19C9 19D0-19DA 19DE-19DF"
    shared := "" },
  { names := ["Newa"]
    own := "11400-1145B 1145D-11461"
    shared := "951-952 1CD5 1CD7-1CD8 1CE2 1CE9~1CED" },
  { names := ["Nko", "Nkoo"]
    own := "7C0-7FA 7FD-7FF"
    shared := "60C 61B 61F FD3E-FD3F" },
  { names := ["Nushu", "Nshu"]
    own := "16FE1 1B170-1B2FB"
    shared := "" },
  { names := ["Nyiakeng_Puachue_Hmong", "Hmnp"]
    own := "1E100-1E12C 1E130-1E13D 1E140-1E149 1E14E-1E14F"
    shared := "" },
  { names := ["Ogham", "Ogam"]
    own := "1680-169C"
    shared := "" },
  { names := ["Ol_Chiki", "Olck"]
    own := "1C50-1C7F"
    shared := "" },
  { names := ["Ol_Onal", "Onao"]
    own := "1E5D0-1E5FA 1E5FF"
    shared := "964-965" },
  { names := ["Old_Hungarian", "Hung"]
    own := "10C80-10CB2 10CC0-10CF2 10CFA-10CFF"
    shared := "205A 205D 2E31 2E41" },
  { names := ["Old_Italic", "Ital"]
    own := "10300-10323 1032D-1032F"
    shared := "" },
  { names := ["Old_North_Arabian", "Narb"]
    own := "10A80-10A9F"
    shared := "" },
  { names := ["Old_Permic", "Perm"]
    own := "10350-1037A"
    shared := "B7 300 306-308 313 483" },
  { names := ["Old_Persian", "Xpeo"]
    own := "103A0-103C3 103C8-103D5"
    shared := "" },
  { names := ["Old_Sogdian", "Sogo"]
    own := "10F00-10F27"
    shared := "" },
  { names := ["Old_South_Arabian", "Sarb"]
    own := "10A60-10A7F"
    shared := "" },
  { names := ["Old_Turkic", "Orkh"]
    own := "10C00-10C48"
    shared := "205A 2E30" },
  { names := ["Old_Uyghur", "Ougr"]
    own := "10F70-10F89"
    shared := "640 10AF2" },
  { names := ["Oriya", "Orya"]
    own := "
      B01-B03 B05-B0C B0F-B10 B13-B28 B2A-B30 B32-B33 B35-B39 B3C-B44 B47-B48 B4B-B4D B55-B57
      B5C-B5D B5F-B63 B66-B77
      "
    shared := "951-952 964-965 1CDA 1CF2" },
  { names := ["Osage", "Osge"]
    own := "104B0-104D3 104D8-104FB"
    shared := "301 304 30B 358" },
  { names := ["Osmanya", "Osma"]
    own := "10480-1049D 104A0-104A9"
    shared := "" },
  { names := ["Pahawh_Hmong", "Hmng"]
    own := "16B00-16B45 16B50-16B59 16B5B-16B61 16B63-16B77 16B7D-16B8F"
    shared := "" },
  { names := ["Palmyrene", "Palm"]
    own := "10860-1087F"
    shared := "" },
  { names := ["Pau_Cin_Hau", "Pauc"]
    own := "11AC0-11AF8"
    shared := "" },
  { names := ["Phags_Pa", "Phag"]
    own := "A840-A877"
    shared := "1802-1803 1805 202F 3002" },
  { names := ["Phoenician", "Phnx"]
    own := "10900-1091B 1091F"
    shared := "" },
  { names := ["Psalter_Pahlavi", "Phlp"]
    own := "10B80-10B91 10B99-10B9C 10BA9-10BAF"
    shared := "640" },
  { names := ["Rejang", "Rjng"]
    own := "A930-A953 A95F"
    shared := "" },
  { names := ["Runic", "Runr"]
    own := "16A0-16EA 16EE-16F8"
    shared := "16EB-16ED" },
  { names := ["Samaritan", "Samr"]
    own := "800-82D 830-83E"
    shared := "2E31" },
  { names := ["Saurashtra", "Saur"]
    own := "A880-A8C5 A8CE-A8D9"
    shared := "" },
  { names := ["Sharada", "Shrd"]
    own := "11180-111DF"
    shared := "951 1CD7 1CD9 1CDC-1CDD 1CE0 1CEA 1CED A830-A835 A838" },
  { names := ["Shavian", "Shaw"]
    own := "10450-1047F"
    shared := "B7" },
  { names := ["Siddham", "Sidd"]
    own := "11580-115B5 115B8-115DD"
    shared := "" },
  { names := ["SignWriting", "Sgnw"]
    own := "1D800-1DA8B 1DA9B-1DA9F 1DAA1-1DAAF"
    shared := "" },
  { names := ["Sinhala", "Sinh"]
    own := "
      D81-D83 D85-D96 D9A-DB1 DB3-DBB DBD DC0-DC6 DCA DCF-DD4 DD6 DD8-DDF DE6-DEF DF2-DF4
      111E1-111F4
      "
    shared := "964-965 1CF2" },
  { names := ["Sogdian", "Sogd"]
    own := "10F30-10F59"
    shared := "640" },
  { names := ["Sora_Sompeng", "Sora"]
    own := "110D0-110E8 110F0-110F9"
    shared := "" },
  { names := ["Soyombo", "Soyo"]
    own := "11A50-11AA2"
    shared := "" },
  { names := ["Sundanese", "Sund"]
    own := "1B80-1BBF 1CC0-1CC7"
    shared := "" },
  { names := ["Sunuwar", "Sunu"]
    own := "11BC0-11BE1 11BF0-11BF9"
    shared := "300-301 303 30D 310 32D 331" },
  { names := ["Syloti_Nagri", "Sylo"]
    own := "A800-A82C"
    shared := "964-965 9E6-9EF" },
  { names := ["Syriac", "Syrc"]
    own := "700-70D 70F-74A 74D-74F 860-86A"
    shared := "
      303-304 307-308 30A 323-325 32D-32E 330-331 60C 61B-61C 61F 640 64B-655 670 1DF8 1DFA
      " },
  { names := ["Tagalog", "Tglg"]
    own := "1700-1715 171F"
    shared := "1735-1736" },
  { names := ["Tagbanwa", "Tagb"]
    own := "1760-176C 176E-1770 1772-1773"
    shared := "1735-1736" },
  { names := ["Tai_Le", "Tale"]
    own := "1950-196D 1970-1974"
    shared := "300-301 307-308 30C 1040-1049" },
  { names := ["Tai_Tham", "Lana"]
    own := "1A20-1A5E 1A60-1A7C 1A7F-1A89 1A90-1A99 1AA0-1AAD"
    shared := "" },
  { names := ["Tai_Viet", "Tavt"]
    own := "AA80-AAC2 AADB-AADF"
    shared := "" },
  { names := ["Takri", "Takr"]
    own := "11680-116B9 116C0-116C9"
    shared := "964-965 A830-A839" },
  { names := ["Tamil", "Taml"]
    own := "
      B82-B83 B85-B8A B8E-B90 B92-B95 B99-B9A B9C B9E-B9F BA3-BA4 BA8-BAA BAE-BB9 BBE-BC2 BC6-BC8
      BCA-BCD BD0 BD7 BE6-BFA 11FC0-11FF1 11FFF
      "
    shared := "951-952 964-965 1CDA A8F3 11301 11303 1133B-1133C" },
  { names := ["Tangsa", "Tnsa"]
    own := "16A70-16ABE 16AC0-16AC9"
    shared := "" },
  { names := ["Tangut", "Tang"]
    own := "16FE0 17000-187F7 18800-18AFF 18D00-18D08"
    shared := "2FF0-2FFF 31EF" },
  { names := ["Telugu", "Telu"]
    own := "
      C00-C0C C0E-C10 C12-C28 C2A-C39 C3C-C44 C46-C48 C4A-C4D C55-C56 C58-C5A C5D C60-C63 C66-C6F
      C77-C7F
      "
    shared := "951-952 964-965 1CD5-1CD6 1CD8 1CDA 1CF2" },
  { names := ["Thaana", "Thaa"]
    own := "780-7B1"
    shared := "60C 61B-61C 61F 660-669 FDF2 FDFD" },
  { names := ["Thai"]
    own := "E01-E3A E40-E5B"
    shared := "2BC 2D7 303 331" },
  { names := ["Tibetan", "Tibt"]
    own := "F00-F47 F49-F6C F71-F97 F99-FBC FBE-FCC FCE-FD4 FD9-FDA"
    shared := "3008-300B" },
  { names := ["Tifinagh", "Tfng"]
    own := "2D30-2D67 2D6F-2D70 2D7F"
    shared := "302 304 306-309 323" },
  { names := ["Tirhuta", "Tirh"]
    own := "11480-114C7 114D0-114D9"
    shared := "951-952 964-965 1CD5 1CE2 1CF2 A830-A839" },
  { names := ["Todhri", "Todr"]
    own := "105C0-105F3"
    shared := "301 304 307 311 313 35E" },
  { names := ["Toto"]
    own := "1E290-1E2AE"
    shared := "2BC" },
  { names := ["Tulu_Tigalari", "Tutg"]
    own := "
      11380-11389 1138B 1138E 11390-113B5 113B7-113C0 113C2 113C5 113C7-113CA 113CC-113D5
      113D7-113D8 113E1-113E2
      "
    shared := "CE6-CEF 1CF2 1CF4 A830-A835 A8F1" },
  { names := ["Ugaritic", "Ugar"]
    own := "10380-1039D 1039F"
    shared := "" },
  { names := ["Vai", "Vaii"]
    own := "A500-A62B"
    shared := "" },
  { names := ["Vithkuqi", "Vith"]
    own := "
      10570-1057A 1057C-1058A 1058C-10592 10594-10595 10597-105A1 105A3-105B1 105B3-105B9
      105BB-105BC
      "
    shared := "" },
  { names := ["Wancho", "Wcho"]
    own := "1E2C0-1E2F9 1E2FF"
    shared := "" },
  { names := ["Warang_Citi", "Wara"]
    own := "118A0-118F2 118FF"
    shared := "" },
  { names := ["Yezidi", "Yezi"]
    own := "10E80-10EA9 10EAB-10EAD 10EB0-10EB1"
    shared := "60C 61B 61F 660-669" },
  { names := ["Yi", "Yiii"]
    own := "A000-A48C A490-A4C6"
    shared := "3001-3002 3008-3011 3014-301B 30FB FF61-FF65" },
  { names := ["Zanabazar_Square", "Zanb"]
    own := "11A00-11A47"
    shared := "" }]

/-- The characters counted to a script. -/
def strict (s : Script) : CharSet := .ofText s.own

/-- The characters that several scripts share. -/
def sharedByMany : CharSet :=
  .unions (all.map fun s => .ofText s.shared)

/-- Whether the characters counted to a script are those of no script in particular. -/
def isGeneral (s : Script) : Bool :=
  s.names.contains "Common" || s.names.contains "Inherited"

/-- The characters used in a script. -/
def wide (s : Script) : CharSet :=
  if s.isGeneral then s.strict.minus sharedByMany else s.strict.union (.ofText s.shared)

end Script

end Placeholders.Text
