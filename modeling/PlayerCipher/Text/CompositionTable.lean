import PlayerCipher.Text.Table

/-! Combining characters and compositions.
The classes order the marks that follow a character; a pair composes into one character.
Rows are in hexadecimal. -/

namespace PlayerCipher.Text.CompositionTable

/-- Ranges of characters with a combining class other than zero, and the class. -/
def classes : List (List Nat) := Table.rows
  "300 314 E6,315 315 E8,316 319 DC,31A 31A E8,31B 31B D8,31C 320 DC,321 322 CA,323 326 DC,
  327 328 CA,329 333 DC,334 338 1,339 33C DC,33D 344 E6,345 345 F0,346 346 E6,347 349 DC,
  34A 34C E6,34D 34E DC,350 352 E6,353 356 DC,357 357 E6,358 358 E8,359 35A DC,35B 35B E6,
  35C 35C E9,35D 35E EA,35F 35F E9,360 361 EA,362 362 E9,363 36F E6,483 487 E6,591 591 DC,
  592 595 E6,596 596 DC,597 599 E6,59A 59A DE,59B 59B DC,59C 5A1 E6,5A2 5A7 DC,5A8 5A9 E6,
  5AA 5AA DC,5AB 5AC E6,5AD 5AD DE,5AE 5AE E4,5AF 5AF E6,5B0 5B0 A,5B1 5B1 B,5B2 5B2 C,5B3 5B3 D,
  5B4 5B4 E,5B5 5B5 F,5B6 5B6 10,5B7 5B7 11,5B8 5B8 12,5B9 5BA 13,5BB 5BB 14,5BC 5BC 15,
  5BD 5BD 16,5BF 5BF 17,5C1 5C1 18,5C2 5C2 19,5C4 5C4 E6,5C5 5C5 DC,5C7 5C7 12,610 617 E6,
  618 618 1E,619 619 1F,61A 61A 20,64B 64B 1B,64C 64C 1C,64D 64D 1D,64E 64E 1E,64F 64F 1F,
  650 650 20,651 651 21,652 652 22,653 654 E6,655 656 DC,657 65B E6,65C 65C DC,65D 65E E6,
  65F 65F DC,670 670 23,6D6 6DC E6,6DF 6E2 E6,6E3 6E3 DC,6E4 6E4 E6,6E7 6E8 E6,6EA 6EA DC,
  6EB 6EC E6,6ED 6ED DC,711 711 24,730 730 E6,731 731 DC,732 733 E6,734 734 DC,735 736 E6,
  737 739 DC,73A 73A E6,73B 73C DC,73D 73D E6,73E 73E DC,73F 741 E6,742 742 DC,743 743 E6,
  744 744 DC,745 745 E6,746 746 DC,747 747 E6,748 748 DC,749 74A E6,7EB 7F1 E6,7F2 7F2 DC,
  7F3 7F3 E6,7FD 7FD DC,816 819 E6,81B 823 E6,825 827 E6,829 82D E6,859 85B DC,897 898 E6,
  899 89B DC,89C 89F E6,8CA 8CE E6,8CF 8D3 DC,8D4 8E1 E6,8E3 8E3 DC,8E4 8E5 E6,8E6 8E6 DC,
  8E7 8E8 E6,8E9 8E9 DC,8EA 8EC E6,8ED 8EF DC,8F0 8F0 1B,8F1 8F1 1C,8F2 8F2 1D,8F3 8F5 E6,
  8F6 8F6 DC,8F7 8F8 E6,8F9 8FA DC,8FB 8FF E6,93C 93C 7,94D 94D 9,951 951 E6,952 952 DC,
  953 954 E6,9BC 9BC 7,9CD 9CD 9,9FE 9FE E6,A3C A3C 7,A4D A4D 9,ABC ABC 7,ACD ACD 9,B3C B3C 7,
  B4D B4D 9,BCD BCD 9,C3C C3C 7,C4D C4D 9,C55 C55 54,C56 C56 5B,CBC CBC 7,CCD CCD 9,D3B D3C 9,
  D4D D4D 9,DCA DCA 9,E38 E39 67,E3A E3A 9,E48 E4B 6B,EB8 EB9 76,EBA EBA 9,EC8 ECB 7A,F18 F19 DC,
  F35 F35 DC,F37 F37 DC,F39 F39 D8,F71 F71 81,F72 F72 82,F74 F74 84,F7A F7D 82,F80 F80 82,
  F82 F83 E6,F84 F84 9,F86 F87 E6,FC6 FC6 DC,1037 1037 7,1039 103A 9,108D 108D DC,135D 135F E6,
  1714 1715 9,1734 1734 9,17D2 17D2 9,17DD 17DD E6,18A9 18A9 E4,1939 1939 DE,193A 193A E6,
  193B 193B DC,1A17 1A17 E6,1A18 1A18 DC,1A60 1A60 9,1A75 1A7C E6,1A7F 1A7F DC,1AB0 1AB4 E6,
  1AB5 1ABA DC,1ABB 1ABC E6,1ABD 1ABD DC,1ABF 1AC0 DC,1AC1 1AC2 E6,1AC3 1AC4 DC,1AC5 1AC9 E6,
  1ACA 1ACA DC,1ACB 1ADC E6,1ADD 1ADD DC,1AE0 1AE5 E6,1AE6 1AE6 DC,1AE7 1AEA E6,1AEB 1AEB EA,
  1B34 1B34 7,1B44 1B44 9,1B6B 1B6B E6,1B6C 1B6C DC,1B6D 1B73 E6,1BAA 1BAB 9,1BE6 1BE6 7,
  1BF2 1BF3 9,1C37 1C37 7,1CD0 1CD2 E6,1CD4 1CD4 1,1CD5 1CD9 DC,1CDA 1CDB E6,1CDC 1CDF DC,
  1CE0 1CE0 E6,1CE2 1CE8 1,1CED 1CED DC,1CF4 1CF4 E6,1CF8 1CF9 E6,1DC0 1DC1 E6,1DC2 1DC2 DC,
  1DC3 1DC9 E6,1DCA 1DCA DC,1DCB 1DCC E6,1DCD 1DCD EA,1DCE 1DCE D6,1DCF 1DCF DC,1DD0 1DD0 CA,
  1DD1 1DF5 E6,1DF6 1DF6 E8,1DF7 1DF8 E4,1DF9 1DF9 DC,1DFA 1DFA DA,1DFB 1DFB E6,1DFC 1DFC E9,
  1DFD 1DFD DC,1DFE 1DFE E6,1DFF 1DFF DC,20D0 20D1 E6,20D2 20D3 1,20D4 20D7 E6,20D8 20DA 1,
  20DB 20DC E6,20E1 20E1 E6,20E5 20E6 1,20E7 20E7 E6,20E8 20E8 DC,20E9 20E9 E6,20EA 20EB 1,
  20EC 20EF DC,20F0 20F0 E6,2CEF 2CF1 E6,2D7F 2D7F 9,2DE0 2DFF E6,302A 302A DA,302B 302B E4,
  302C 302C E8,302D 302D DE,302E 302F E0,3099 309A 8,A66F A66F E6,A674 A67D E6,A69E A69F E6,
  A6F0 A6F1 E6,A806 A806 9,A82C A82C 9,A8C4 A8C4 9,A8E0 A8F1 E6,A92B A92D DC,A953 A953 9,
  A9B3 A9B3 7,A9C0 A9C0 9,AAB0 AAB0 E6,AAB2 AAB3 E6,AAB4 AAB4 DC,AAB7 AAB8 E6,AABE AABF E6,
  AAC1 AAC1 E6,AAF6 AAF6 9,ABED ABED 9,FB1E FB1E 1A,FE20 FE26 E6,FE27 FE2D DC,FE2E FE2F E6,
  101FD 101FD DC,102E0 102E0 DC,10376 1037A E6,10A0D 10A0D DC,10A0F 10A0F E6,10A38 10A38 E6,
  10A39 10A39 1,10A3A 10A3A DC,10A3F 10A3F 9,10AE5 10AE5 E6,10AE6 10AE6 DC,10D24 10D27 E6,
  10D69 10D6D E6,10EAB 10EAC E6,10EFA 10EFB DC,10EFD 10EFF DC,10F46 10F47 DC,10F48 10F4A E6,
  10F4B 10F4B DC,10F4C 10F4C E6,10F4D 10F50 DC,10F82 10F82 E6,10F83 10F83 DC,10F84 10F84 E6,
  10F85 10F85 DC,11046 11046 9,11070 11070 9,1107F 1107F 9,110B9 110B9 9,110BA 110BA 7,
  11100 11102 E6,11133 11134 9,11173 11173 7,111C0 111C0 9,111CA 111CA 7,11235 11235 9,
  11236 11236 7,112E9 112E9 7,112EA 112EA 9,1133B 1133C 7,1134D 1134D 9,11366 1136C E6,
  11370 11374 E6,113CE 113D0 9,11442 11442 9,11446 11446 7,1145E 1145E E6,114C2 114C2 9,
  114C3 114C3 7,115BF 115BF 9,115C0 115C0 7,1163F 1163F 9,116B6 116B6 9,116B7 116B7 7,
  1172B 1172B 9,11839 11839 9,1183A 1183A 7,1193D 1193E 9,11943 11943 7,119E0 119E0 9,
  11A34 11A34 9,11A47 11A47 9,11A99 11A99 9,11C3F 11C3F 9,11D42 11D42 7,11D44 11D45 9,
  11D97 11D97 9,11F41 11F42 9,1612F 1612F 9,16AF0 16AF4 1,16B30 16B36 E6,16FF0 16FF1 6,
  1BC9E 1BC9E 1,1D165 1D166 D8,1D167 1D169 1,1D16D 1D16D E2,1D16E 1D172 D8,1D17B 1D182 DC,
  1D185 1D189 E6,1D18A 1D18B DC,1D1AA 1D1AD E6,1D242 1D244 E6,1E000 1E006 E6,1E008 1E018 E6,
  1E01B 1E021 E6,1E023 1E024 E6,1E026 1E02A E6,1E08F 1E08F E6,1E130 1E136 E6,1E2AE 1E2AE E6,
  1E2EC 1E2EF E6,1E4EC 1E4ED E8,1E4EE 1E4EE DC,1E4EF 1E4EF E6,1E5EE 1E5EE E6,1E5EF 1E5EF DC,
  1E6E3 1E6E3 E6,1E6E6 1E6E6 E6,1E6EE 1E6EF E6,1E6F5 1E6F5 E6,1E8D0 1E8D6 DC,1E944 1E949 E6,
  1E94A 1E94A 7"

def marks : List (List Nat) := Table.rows
  "300 36F,483 489,591 5BD,5BF 5BF,5C1 5C2,5C4 5C5,5C7 5C7,610 61A,64B 65F,670 670,6D6 6DC,6DF 6E4,
  6E7 6E8,6EA 6ED,711 711,730 74A,7A6 7B0,7EB 7F3,7FD 7FD,816 819,81B 823,825 827,829 82D,859 85B,
  897 89F,8CA 8E1,8E3 903,93A 93C,93E 94F,951 957,962 963,981 983,9BC 9BC,9BE 9C4,9C7 9C8,9CB 9CD,
  9D7 9D7,9E2 9E3,9FE 9FE,A01 A03,A3C A3C,A3E A42,A47 A48,A4B A4D,A51 A51,A70 A71,A75 A75,A81 A83,
  ABC ABC,ABE AC5,AC7 AC9,ACB ACD,AE2 AE3,AFA AFF,B01 B03,B3C B3C,B3E B44,B47 B48,B4B B4D,B55 B57,
  B62 B63,B82 B82,BBE BC2,BC6 BC8,BCA BCD,BD7 BD7,C00 C04,C3C C3C,C3E C44,C46 C48,C4A C4D,C55 C56,
  C62 C63,C81 C83,CBC CBC,CBE CC4,CC6 CC8,CCA CCD,CD5 CD6,CE2 CE3,CF3 CF3,D00 D03,D3B D3C,D3E D44,
  D46 D48,D4A D4D,D57 D57,D62 D63,D81 D83,DCA DCA,DCF DD4,DD6 DD6,DD8 DDF,DF2 DF3,E31 E31,E34 E3A,
  E47 E4E,EB1 EB1,EB4 EBC,EC8 ECE,F18 F19,F35 F35,F37 F37,F39 F39,F3E F3F,F71 F84,F86 F87,F8D F97,
  F99 FBC,FC6 FC6,102B 103E,1056 1059,105E 1060,1062 1064,1067 106D,1071 1074,1082 108D,108F 108F,
  109A 109D,135D 135F,1712 1715,1732 1734,1752 1753,1772 1773,17B4 17D3,17DD 17DD,180B 180D,
  180F 180F,1885 1886,18A9 18A9,1920 192B,1930 193B,1A17 1A1B,1A55 1A5E,1A60 1A7C,1A7F 1A7F,
  1AB0 1ADD,1AE0 1AEB,1B00 1B04,1B34 1B44,1B6B 1B73,1B80 1B82,1BA1 1BAD,1BE6 1BF3,1C24 1C37,
  1CD0 1CD2,1CD4 1CE8,1CED 1CED,1CF4 1CF4,1CF7 1CF9,1DC0 1DFF,20D0 20F0,2CEF 2CF1,2D7F 2D7F,
  2DE0 2DFF,302A 302F,3099 309A,A66F A672,A674 A67D,A69E A69F,A6F0 A6F1,A802 A802,A806 A806,
  A80B A80B,A823 A827,A82C A82C,A880 A881,A8B4 A8C5,A8E0 A8F1,A8FF A8FF,A926 A92D,A947 A953,
  A980 A983,A9B3 A9C0,A9E5 A9E5,AA29 AA36,AA43 AA43,AA4C AA4D,AA7B AA7D,AAB0 AAB0,AAB2 AAB4,
  AAB7 AAB8,AABE AABF,AAC1 AAC1,AAEB AAEF,AAF5 AAF6,ABE3 ABEA,ABEC ABED,FB1E FB1E,FE00 FE0F,
  FE20 FE2F,101FD 101FD,102E0 102E0,10376 1037A,10A01 10A03,10A05 10A06,10A0C 10A0F,10A38 10A3A,
  10A3F 10A3F,10AE5 10AE6,10D24 10D27,10D69 10D6D,10EAB 10EAC,10EFA 10EFF,10F46 10F50,10F82 10F85,
  11000 11002,11038 11046,11070 11070,11073 11074,1107F 11082,110B0 110BA,110C2 110C2,11100 11102,
  11127 11134,11145 11146,11173 11173,11180 11182,111B3 111C0,111C9 111CC,111CE 111CF,1122C 11237,
  1123E 1123E,11241 11241,112DF 112EA,11300 11303,1133B 1133C,1133E 11344,11347 11348,1134B 1134D,
  11357 11357,11362 11363,11366 1136C,11370 11374,113B8 113C0,113C2 113C2,113C5 113C5,113C7 113CA,
  113CC 113D0,113D2 113D2,113E1 113E2,11435 11446,1145E 1145E,114B0 114C3,115AF 115B5,115B8 115C0,
  115DC 115DD,11630 11640,116AB 116B7,1171D 1172B,1182C 1183A,11930 11935,11937 11938,1193B 1193E,
  11940 11940,11942 11943,119D1 119D7,119DA 119E0,119E4 119E4,11A01 11A0A,11A33 11A39,11A3B 11A3E,
  11A47 11A47,11A51 11A5B,11A8A 11A99,11B60 11B67,11C2F 11C36,11C38 11C3F,11C92 11CA7,11CA9 11CB6,
  11D31 11D36,11D3A 11D3A,11D3C 11D3D,11D3F 11D45,11D47 11D47,11D8A 11D8E,11D90 11D91,11D93 11D97,
  11EF3 11EF6,11F00 11F01,11F03 11F03,11F34 11F3A,11F3E 11F42,11F5A 11F5A,13440 13440,13447 13455,
  1611E 1612F,16AF0 16AF4,16B30 16B36,16F4F 16F4F,16F51 16F87,16F8F 16F92,16FE4 16FE4,16FF0 16FF1,
  1BC9D 1BC9E,1CF00 1CF2D,1CF30 1CF46,1D165 1D169,1D16D 1D172,1D17B 1D182,1D185 1D18B,1D1AA 1D1AD,
  1D242 1D244,1DA00 1DA36,1DA3B 1DA6C,1DA75 1DA75,1DA84 1DA84,1DA9B 1DA9F,1DAA1 1DAAF,1E000 1E006,
  1E008 1E018,1E01B 1E021,1E023 1E024,1E026 1E02A,1E08F 1E08F,1E130 1E136,1E2AE 1E2AE,1E2EC 1E2EF,
  1E4EC 1E4EF,1E5EE 1E5EF,1E6E3 1E6E3,1E6E6 1E6E6,1E6EE 1E6EF,1E6F5 1E6F5,1E8D0 1E8D6,1E944 1E94A,
  E0100 E01EF"

def pairs : List (List Nat) := Table.rows
  "3C 338 226E,3D 338 2260,3E 338 226F,41 300 C0,41 301 C1,41 302 C2,41 303 C3,41 304 100,
  41 306 102,41 307 226,41 308 C4,41 309 1EA2,41 30A C5,41 30C 1CD,41 30F 200,41 311 202,
  41 323 1EA0,41 325 1E00,41 328 104,42 307 1E02,42 323 1E04,42 331 1E06,43 301 106,43 302 108,
  43 307 10A,43 30C 10C,43 327 C7,44 307 1E0A,44 30C 10E,44 323 1E0C,44 327 1E10,44 32D 1E12,
  44 331 1E0E,45 300 C8,45 301 C9,45 302 CA,45 303 1EBC,45 304 112,45 306 114,45 307 116,
  45 308 CB,45 309 1EBA,45 30C 11A,45 30F 204,45 311 206,45 323 1EB8,45 327 228,45 328 118,
  45 32D 1E18,45 330 1E1A,46 307 1E1E,47 301 1F4,47 302 11C,47 304 1E20,47 306 11E,47 307 120,
  47 30C 1E6,47 327 122,48 302 124,48 307 1E22,48 308 1E26,48 30C 21E,48 323 1E24,48 327 1E28,
  48 32E 1E2A,49 300 CC,49 301 CD,49 302 CE,49 303 128,49 304 12A,49 306 12C,49 307 130,49 308 CF,
  49 309 1EC8,49 30C 1CF,49 30F 208,49 311 20A,49 323 1ECA,49 328 12E,49 330 1E2C,4A 302 134,
  4B 301 1E30,4B 30C 1E8,4B 323 1E32,4B 327 136,4B 331 1E34,4C 301 139,4C 30C 13D,4C 323 1E36,
  4C 327 13B,4C 32D 1E3C,4C 331 1E3A,4D 301 1E3E,4D 307 1E40,4D 323 1E42,4E 300 1F8,4E 301 143,
  4E 303 D1,4E 307 1E44,4E 30C 147,4E 323 1E46,4E 327 145,4E 32D 1E4A,4E 331 1E48,4F 300 D2,
  4F 301 D3,4F 302 D4,4F 303 D5,4F 304 14C,4F 306 14E,4F 307 22E,4F 308 D6,4F 309 1ECE,4F 30B 150,
  4F 30C 1D1,4F 30F 20C,4F 311 20E,4F 31B 1A0,4F 323 1ECC,4F 328 1EA,50 301 1E54,50 307 1E56,
  52 301 154,52 307 1E58,52 30C 158,52 30F 210,52 311 212,52 323 1E5A,52 327 156,52 331 1E5E,
  53 301 15A,53 302 15C,53 307 1E60,53 30C 160,53 323 1E62,53 326 218,53 327 15E,54 307 1E6A,
  54 30C 164,54 323 1E6C,54 326 21A,54 327 162,54 32D 1E70,54 331 1E6E,55 300 D9,55 301 DA,
  55 302 DB,55 303 168,55 304 16A,55 306 16C,55 308 DC,55 309 1EE6,55 30A 16E,55 30B 170,
  55 30C 1D3,55 30F 214,55 311 216,55 31B 1AF,55 323 1EE4,55 324 1E72,55 328 172,55 32D 1E76,
  55 330 1E74,56 303 1E7C,56 323 1E7E,57 300 1E80,57 301 1E82,57 302 174,57 307 1E86,57 308 1E84,
  57 323 1E88,58 307 1E8A,58 308 1E8C,59 300 1EF2,59 301 DD,59 302 176,59 303 1EF8,59 304 232,
  59 307 1E8E,59 308 178,59 309 1EF6,59 323 1EF4,5A 301 179,5A 302 1E90,5A 307 17B,5A 30C 17D,
  5A 323 1E92,5A 331 1E94,61 300 E0,61 301 E1,61 302 E2,61 303 E3,61 304 101,61 306 103,
  61 307 227,61 308 E4,61 309 1EA3,61 30A E5,61 30C 1CE,61 30F 201,61 311 203,61 323 1EA1,
  61 325 1E01,61 328 105,62 307 1E03,62 323 1E05,62 331 1E07,63 301 107,63 302 109,63 307 10B,
  63 30C 10D,63 327 E7,64 307 1E0B,64 30C 10F,64 323 1E0D,64 327 1E11,64 32D 1E13,64 331 1E0F,
  65 300 E8,65 301 E9,65 302 EA,65 303 1EBD,65 304 113,65 306 115,65 307 117,65 308 EB,
  65 309 1EBB,65 30C 11B,65 30F 205,65 311 207,65 323 1EB9,65 327 229,65 328 119,65 32D 1E19,
  65 330 1E1B,66 307 1E1F,67 301 1F5,67 302 11D,67 304 1E21,67 306 11F,67 307 121,67 30C 1E7,
  67 327 123,68 302 125,68 307 1E23,68 308 1E27,68 30C 21F,68 323 1E25,68 327 1E29,68 32E 1E2B,
  68 331 1E96,69 300 EC,69 301 ED,69 302 EE,69 303 129,69 304 12B,69 306 12D,69 308 EF,
  69 309 1EC9,69 30C 1D0,69 30F 209,69 311 20B,69 323 1ECB,69 328 12F,69 330 1E2D,6A 302 135,
  6A 30C 1F0,6B 301 1E31,6B 30C 1E9,6B 323 1E33,6B 327 137,6B 331 1E35,6C 301 13A,6C 30C 13E,
  6C 323 1E37,6C 327 13C,6C 32D 1E3D,6C 331 1E3B,6D 301 1E3F,6D 307 1E41,6D 323 1E43,6E 300 1F9,
  6E 301 144,6E 303 F1,6E 307 1E45,6E 30C 148,6E 323 1E47,6E 327 146,6E 32D 1E4B,6E 331 1E49,
  6F 300 F2,6F 301 F3,6F 302 F4,6F 303 F5,6F 304 14D,6F 306 14F,6F 307 22F,6F 308 F6,6F 309 1ECF,
  6F 30B 151,6F 30C 1D2,6F 30F 20D,6F 311 20F,6F 31B 1A1,6F 323 1ECD,6F 328 1EB,70 301 1E55,
  70 307 1E57,72 301 155,72 307 1E59,72 30C 159,72 30F 211,72 311 213,72 323 1E5B,72 327 157,
  72 331 1E5F,73 301 15B,73 302 15D,73 307 1E61,73 30C 161,73 323 1E63,73 326 219,73 327 15F,
  74 307 1E6B,74 308 1E97,74 30C 165,74 323 1E6D,74 326 21B,74 327 163,74 32D 1E71,74 331 1E6F,
  75 300 F9,75 301 FA,75 302 FB,75 303 169,75 304 16B,75 306 16D,75 308 FC,75 309 1EE7,75 30A 16F,
  75 30B 171,75 30C 1D4,75 30F 215,75 311 217,75 31B 1B0,75 323 1EE5,75 324 1E73,75 328 173,
  75 32D 1E77,75 330 1E75,76 303 1E7D,76 323 1E7F,77 300 1E81,77 301 1E83,77 302 175,77 307 1E87,
  77 308 1E85,77 30A 1E98,77 323 1E89,78 307 1E8B,78 308 1E8D,79 300 1EF3,79 301 FD,79 302 177,
  79 303 1EF9,79 304 233,79 307 1E8F,79 308 FF,79 309 1EF7,79 30A 1E99,79 323 1EF5,7A 301 17A,
  7A 302 1E91,7A 307 17C,7A 30C 17E,7A 323 1E93,7A 331 1E95,A8 300 1FED,A8 301 385,A8 342 1FC1,
  C2 300 1EA6,C2 301 1EA4,C2 303 1EAA,C2 309 1EA8,C4 304 1DE,C5 301 1FA,C6 301 1FC,C6 304 1E2,
  C7 301 1E08,CA 300 1EC0,CA 301 1EBE,CA 303 1EC4,CA 309 1EC2,CF 301 1E2E,D4 300 1ED2,D4 301 1ED0,
  D4 303 1ED6,D4 309 1ED4,D5 301 1E4C,D5 304 22C,D5 308 1E4E,D6 304 22A,D8 301 1FE,DC 300 1DB,
  DC 301 1D7,DC 304 1D5,DC 30C 1D9,E2 300 1EA7,E2 301 1EA5,E2 303 1EAB,E2 309 1EA9,E4 304 1DF,
  E5 301 1FB,E6 301 1FD,E6 304 1E3,E7 301 1E09,EA 300 1EC1,EA 301 1EBF,EA 303 1EC5,EA 309 1EC3,
  EF 301 1E2F,F4 300 1ED3,F4 301 1ED1,F4 303 1ED7,F4 309 1ED5,F5 301 1E4D,F5 304 22D,F5 308 1E4F,
  F6 304 22B,F8 301 1FF,FC 300 1DC,FC 301 1D8,FC 304 1D6,FC 30C 1DA,102 300 1EB0,102 301 1EAE,
  102 303 1EB4,102 309 1EB2,103 300 1EB1,103 301 1EAF,103 303 1EB5,103 309 1EB3,112 300 1E14,
  112 301 1E16,113 300 1E15,113 301 1E17,14C 300 1E50,14C 301 1E52,14D 300 1E51,14D 301 1E53,
  15A 307 1E64,15B 307 1E65,160 307 1E66,161 307 1E67,168 301 1E78,169 301 1E79,16A 308 1E7A,
  16B 308 1E7B,17F 307 1E9B,1A0 300 1EDC,1A0 301 1EDA,1A0 303 1EE0,1A0 309 1EDE,1A0 323 1EE2,
  1A1 300 1EDD,1A1 301 1EDB,1A1 303 1EE1,1A1 309 1EDF,1A1 323 1EE3,1AF 300 1EEA,1AF 301 1EE8,
  1AF 303 1EEE,1AF 309 1EEC,1AF 323 1EF0,1B0 300 1EEB,1B0 301 1EE9,1B0 303 1EEF,1B0 309 1EED,
  1B0 323 1EF1,1B7 30C 1EE,1EA 304 1EC,1EB 304 1ED,226 304 1E0,227 304 1E1,228 306 1E1C,
  229 306 1E1D,22E 304 230,22F 304 231,292 30C 1EF,391 300 1FBA,391 301 386,391 304 1FB9,
  391 306 1FB8,391 313 1F08,391 314 1F09,391 345 1FBC,395 300 1FC8,395 301 388,395 313 1F18,
  395 314 1F19,397 300 1FCA,397 301 389,397 313 1F28,397 314 1F29,397 345 1FCC,399 300 1FDA,
  399 301 38A,399 304 1FD9,399 306 1FD8,399 308 3AA,399 313 1F38,399 314 1F39,39F 300 1FF8,
  39F 301 38C,39F 313 1F48,39F 314 1F49,3A1 314 1FEC,3A5 300 1FEA,3A5 301 38E,3A5 304 1FE9,
  3A5 306 1FE8,3A5 308 3AB,3A5 314 1F59,3A9 300 1FFA,3A9 301 38F,3A9 313 1F68,3A9 314 1F69,
  3A9 345 1FFC,3AC 345 1FB4,3AE 345 1FC4,3B1 300 1F70,3B1 301 3AC,3B1 304 1FB1,3B1 306 1FB0,
  3B1 313 1F00,3B1 314 1F01,3B1 342 1FB6,3B1 345 1FB3,3B5 300 1F72,3B5 301 3AD,3B5 313 1F10,
  3B5 314 1F11,3B7 300 1F74,3B7 301 3AE,3B7 313 1F20,3B7 314 1F21,3B7 342 1FC6,3B7 345 1FC3,
  3B9 300 1F76,3B9 301 3AF,3B9 304 1FD1,3B9 306 1FD0,3B9 308 3CA,3B9 313 1F30,3B9 314 1F31,
  3B9 342 1FD6,3BF 300 1F78,3BF 301 3CC,3BF 313 1F40,3BF 314 1F41,3C1 313 1FE4,3C1 314 1FE5,
  3C5 300 1F7A,3C5 301 3CD,3C5 304 1FE1,3C5 306 1FE0,3C5 308 3CB,3C5 313 1F50,3C5 314 1F51,
  3C5 342 1FE6,3C9 300 1F7C,3C9 301 3CE,3C9 313 1F60,3C9 314 1F61,3C9 342 1FF6,3C9 345 1FF3,
  3CA 300 1FD2,3CA 301 390,3CA 342 1FD7,3CB 300 1FE2,3CB 301 3B0,3CB 342 1FE7,3CE 345 1FF4,
  3D2 301 3D3,3D2 308 3D4,406 308 407,410 306 4D0,410 308 4D2,413 301 403,415 300 400,415 306 4D6,
  415 308 401,416 306 4C1,416 308 4DC,417 308 4DE,418 300 40D,418 304 4E2,418 306 419,418 308 4E4,
  41A 301 40C,41E 308 4E6,423 304 4EE,423 306 40E,423 308 4F0,423 30B 4F2,427 308 4F4,42B 308 4F8,
  42D 308 4EC,430 306 4D1,430 308 4D3,433 301 453,435 300 450,435 306 4D7,435 308 451,436 306 4C2,
  436 308 4DD,437 308 4DF,438 300 45D,438 304 4E3,438 306 439,438 308 4E5,43A 301 45C,43E 308 4E7,
  443 304 4EF,443 306 45E,443 308 4F1,443 30B 4F3,447 308 4F5,44B 308 4F9,44D 308 4ED,456 308 457,
  474 30F 476,475 30F 477,4D8 308 4DA,4D9 308 4DB,4E8 308 4EA,4E9 308 4EB,627 653 622,627 654 623,
  627 655 625,648 654 624,64A 654 626,6C1 654 6C2,6D2 654 6D3,6D5 654 6C0,928 93C 929,930 93C 931,
  933 93C 934,9C7 9BE 9CB,9C7 9D7 9CC,B47 B3E B4B,B47 B56 B48,B47 B57 B4C,B92 BD7 B94,BC6 BBE BCA,
  BC6 BD7 BCC,BC7 BBE BCB,C46 C56 C48,CBF CD5 CC0,CC6 CC2 CCA,CC6 CD5 CC7,CC6 CD6 CC8,CCA CD5 CCB,
  D46 D3E D4A,D46 D57 D4C,D47 D3E D4B,DD9 DCA DDA,DD9 DCF DDC,DD9 DDF DDE,DDC DCA DDD,
  1025 102E 1026,1B05 1B35 1B06,1B07 1B35 1B08,1B09 1B35 1B0A,1B0B 1B35 1B0C,1B0D 1B35 1B0E,
  1B11 1B35 1B12,1B3A 1B35 1B3B,1B3C 1B35 1B3D,1B3E 1B35 1B40,1B3F 1B35 1B41,1B42 1B35 1B43,
  1E36 304 1E38,1E37 304 1E39,1E5A 304 1E5C,1E5B 304 1E5D,1E62 307 1E68,1E63 307 1E69,
  1EA0 302 1EAC,1EA0 306 1EB6,1EA1 302 1EAD,1EA1 306 1EB7,1EB8 302 1EC6,1EB9 302 1EC7,
  1ECC 302 1ED8,1ECD 302 1ED9,1F00 300 1F02,1F00 301 1F04,1F00 342 1F06,1F00 345 1F80,
  1F01 300 1F03,1F01 301 1F05,1F01 342 1F07,1F01 345 1F81,1F02 345 1F82,1F03 345 1F83,
  1F04 345 1F84,1F05 345 1F85,1F06 345 1F86,1F07 345 1F87,1F08 300 1F0A,1F08 301 1F0C,
  1F08 342 1F0E,1F08 345 1F88,1F09 300 1F0B,1F09 301 1F0D,1F09 342 1F0F,1F09 345 1F89,
  1F0A 345 1F8A,1F0B 345 1F8B,1F0C 345 1F8C,1F0D 345 1F8D,1F0E 345 1F8E,1F0F 345 1F8F,
  1F10 300 1F12,1F10 301 1F14,1F11 300 1F13,1F11 301 1F15,1F18 300 1F1A,1F18 301 1F1C,
  1F19 300 1F1B,1F19 301 1F1D,1F20 300 1F22,1F20 301 1F24,1F20 342 1F26,1F20 345 1F90,
  1F21 300 1F23,1F21 301 1F25,1F21 342 1F27,1F21 345 1F91,1F22 345 1F92,1F23 345 1F93,
  1F24 345 1F94,1F25 345 1F95,1F26 345 1F96,1F27 345 1F97,1F28 300 1F2A,1F28 301 1F2C,
  1F28 342 1F2E,1F28 345 1F98,1F29 300 1F2B,1F29 301 1F2D,1F29 342 1F2F,1F29 345 1F99,
  1F2A 345 1F9A,1F2B 345 1F9B,1F2C 345 1F9C,1F2D 345 1F9D,1F2E 345 1F9E,1F2F 345 1F9F,
  1F30 300 1F32,1F30 301 1F34,1F30 342 1F36,1F31 300 1F33,1F31 301 1F35,1F31 342 1F37,
  1F38 300 1F3A,1F38 301 1F3C,1F38 342 1F3E,1F39 300 1F3B,1F39 301 1F3D,1F39 342 1F3F,
  1F40 300 1F42,1F40 301 1F44,1F41 300 1F43,1F41 301 1F45,1F48 300 1F4A,1F48 301 1F4C,
  1F49 300 1F4B,1F49 301 1F4D,1F50 300 1F52,1F50 301 1F54,1F50 342 1F56,1F51 300 1F53,
  1F51 301 1F55,1F51 342 1F57,1F59 300 1F5B,1F59 301 1F5D,1F59 342 1F5F,1F60 300 1F62,
  1F60 301 1F64,1F60 342 1F66,1F60 345 1FA0,1F61 300 1F63,1F61 301 1F65,1F61 342 1F67,
  1F61 345 1FA1,1F62 345 1FA2,1F63 345 1FA3,1F64 345 1FA4,1F65 345 1FA5,1F66 345 1FA6,
  1F67 345 1FA7,1F68 300 1F6A,1F68 301 1F6C,1F68 342 1F6E,1F68 345 1FA8,1F69 300 1F6B,
  1F69 301 1F6D,1F69 342 1F6F,1F69 345 1FA9,1F6A 345 1FAA,1F6B 345 1FAB,1F6C 345 1FAC,
  1F6D 345 1FAD,1F6E 345 1FAE,1F6F 345 1FAF,1F70 345 1FB2,1F74 345 1FC2,1F7C 345 1FF2,
  1FB6 345 1FB7,1FBF 300 1FCD,1FBF 301 1FCE,1FBF 342 1FCF,1FC6 345 1FC7,1FF6 345 1FF7,
  1FFE 300 1FDD,1FFE 301 1FDE,1FFE 342 1FDF,2190 338 219A,2192 338 219B,2194 338 21AE,
  21D0 338 21CD,21D2 338 21CF,21D4 338 21CE,2203 338 2204,2208 338 2209,220B 338 220C,
  2223 338 2224,2225 338 2226,223C 338 2241,2243 338 2244,2245 338 2247,2248 338 2249,
  224D 338 226D,2261 338 2262,2264 338 2270,2265 338 2271,2272 338 2274,2273 338 2275,
  2276 338 2278,2277 338 2279,227A 338 2280,227B 338 2281,227C 338 22E0,227D 338 22E1,
  2282 338 2284,2283 338 2285,2286 338 2288,2287 338 2289,2291 338 22E2,2292 338 22E3,
  22A2 338 22AC,22A8 338 22AD,22A9 338 22AE,22AB 338 22AF,22B2 338 22EA,22B3 338 22EB,
  22B4 338 22EC,22B5 338 22ED,3046 3099 3094,304B 3099 304C,304D 3099 304E,304F 3099 3050,
  3051 3099 3052,3053 3099 3054,3055 3099 3056,3057 3099 3058,3059 3099 305A,305B 3099 305C,
  305D 3099 305E,305F 3099 3060,3061 3099 3062,3064 3099 3065,3066 3099 3067,3068 3099 3069,
  306F 3099 3070,306F 309A 3071,3072 3099 3073,3072 309A 3074,3075 3099 3076,3075 309A 3077,
  3078 3099 3079,3078 309A 307A,307B 3099 307C,307B 309A 307D,309D 3099 309E,30A6 3099 30F4,
  30AB 3099 30AC,30AD 3099 30AE,30AF 3099 30B0,30B1 3099 30B2,30B3 3099 30B4,30B5 3099 30B6,
  30B7 3099 30B8,30B9 3099 30BA,30BB 3099 30BC,30BD 3099 30BE,30BF 3099 30C0,30C1 3099 30C2,
  30C4 3099 30C5,30C6 3099 30C7,30C8 3099 30C9,30CF 3099 30D0,30CF 309A 30D1,30D2 3099 30D3,
  30D2 309A 30D4,30D5 3099 30D6,30D5 309A 30D7,30D8 3099 30D9,30D8 309A 30DA,30DB 3099 30DC,
  30DB 309A 30DD,30EF 3099 30F7,30F0 3099 30F8,30F1 3099 30F9,30F2 3099 30FA,30FD 3099 30FE,
  105D2 307 105C9,105DA 307 105E4,11099 110BA 1109A,1109B 110BA 1109C,110A5 110BA 110AB,
  11131 11127 1112E,11132 11127 1112F,11347 1133E 1134B,11347 11357 1134C,11382 113C9 11383,
  11384 113BB 11385,1138B 113C2 1138E,11390 113C9 11391,113C2 113B8 113C7,113C2 113C2 113C5,
  113C2 113C9 113C8,114B9 114B0 114BC,114B9 114BA 114BB,114B9 114BD 114BE,115B8 115AF 115BA,
  115B9 115AF 115BB,11935 11930 11938,1611E 1611E 16121,1611E 1611F 16123,1611E 16120 16125,
  1611E 16129 16122,16121 1611F 16126,16121 16120 16128,16122 1611F 16127,16129 1611F 16124,
  16D63 16D67 16D69,16D67 16D67 16D68,16D69 16D67 16D6A"

end PlayerCipher.Text.CompositionTable
