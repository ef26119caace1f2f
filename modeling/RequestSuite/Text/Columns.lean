import RequestSuite.Text.RunTable

/-! The columns that a character takes in a terminal when it stands alone. -/
namespace RequestSuite.Text

/-- Runs of characters that do not take one column: first, last and columns. -/
def columnRows : List String :=
  ["AD AD 0 300 36F 0 483 489 0 591 5BD 0 5BF 5BF 0 5C1 5C2 0 5C4 5C5 0 5C7 5C7 0 605 605 0",
   "610 61A 0 61C 61C 0 64B 65F 0 670 670 0 6D6 6DC 0 6DF 6E4 0 6E7 6E8 0 6EA 6ED 0 70F 70F 0",
   "711 711 0 730 74A 0 7A6 7B0 0 7EB 7F3 0 7FD 7FD 0 816 819 0 81B 823 0 825 827 0 829 82D 0",
   "859 85B 0 890 891 0 897 89F 0 8CA 902 0 93A 93A 0 93C 93C 0 941 948 0 94D 94D 0 951 957 0",
   "962 963 0 981 981 0 9BC 9BC 0 9BE 9BE 0 9C1 9C4 0 9CD 9CD 0 9D7 9D7 0 9E2 9E3 0 9FE 9FE 0",
   "A01 A02 0 A3C A3C 0 A41 A42 0 A47 A48 0 A4B A4D 0 A51 A51 0 A70 A71 0 A75 A75 0 A81 A82 0",
   "ABC ABC 0 AC1 AC5 0 AC7 AC8 0 ACD ACD 0 AE2 AE3 0 AFA AFF 0 B01 B01 0 B3C B3C 0 B3E B3F 0",
   "B41 B44 0 B4D B4D 0 B55 B57 0 B62 B63 0 B82 B82 0 BBE BBE 0 BC0 BC0 0 BCD BCD 0 BD7 BD7 0",
   "C00 C00 0 C04 C04 0 C3C C3C 0 C3E C40 0 C46 C48 0 C4A C4D 0 C55 C56 0 C62 C63 0 C81 C81 0",
   "CBC CBC 0 CBF CC0 0 CC2 CC2 0 CC6 CC8 0 CCA CCD 0 CD5 CD6 0 CE2 CE3 0 D00 D01 0 D3B D3C 0",
   "D3E D3E 0 D41 D44 0 D4D D4E 0 D57 D57 0 D62 D63 0 D81 D81 0 DCA DCA 0 DCF DCF 0 DD2 DD4 0",
   "DD6 DD6 0 DDF DDF 0 E31 E31 0 E34 E3A 0 E47 E4E 0 EB1 EB1 0 EB4 EBC 0 EC8 ECE 0 F18 F19 0",
   "F35 F35 0 F37 F37 0 F39 F39 0 F71 F7E 0 F80 F84 0 F86 F87 0 F8D F97 0 F99 FBC 0 FC6 FC6 0",
   "102D 1030 0 1032 1037 0 1039 103A 0 103D 103E 0 1058 1059 0 105E 1060 0 1071 1074 0",
   "1082 1082 0 1085 1086 0 108D 108D 0 109D 109D 0 1100 115F 2 1160 11FF 0 135D 135F 0",
   "1712 1715 0 1732 1734 0 1752 1753 0 1772 1773 0 17A4 17A4 2 17B4 17B5 0 17B7 17BD 0",
   "17C6 17C6 0 17C9 17D3 0 17D8 17D8 3 17DD 17DD 0 180B 180F 0 1885 1886 0 18A9 18A9 0",
   "1920 1922 0 1927 1928 0 1932 1932 0 1939 193B 0 1A17 1A18 0 1A1B 1A1B 0 1A56 1A56 0",
   "1A58 1A5E 0 1A60 1A60 0 1A62 1A62 0 1A65 1A6C 0 1A73 1A7C 0 1A7F 1A7F 0 1AB0 1ADD 0",
   "1AE0 1AEB 0 1B00 1B03 0 1B34 1B3D 0 1B42 1B44 0 1B6B 1B73 0 1B80 1B81 0 1BA2 1BA5 0",
   "1BA8 1BAD 0 1BE6 1BE6 0 1BE8 1BE9 0 1BED 1BED 0 1BEF 1BF3 0 1C2C 1C33 0 1C36 1C37 0",
   "1CD0 1CD2 0 1CD4 1CE0 0 1CE2 1CE8 0 1CED 1CED 0 1CF4 1CF4 0 1CF8 1CF9 0 1DC0 1DFF 0",
   "200B 200F 0 202A 202E 0 2060 206F 0 20D0 20F0 0 231A 231B 2 2329 232A 2 23E9 23EC 2",
   "23F0 23F0 2 23F3 23F3 2 25FD 25FE 2 2614 2615 2 2630 2637 2 2648 2653 2 267F 267F 2",
   "268A 268F 2 2693 2693 2 26A1 26A1 2 26AA 26AB 2 26BD 26BE 2 26C4 26C5 2 26CE 26CE 2",
   "26D4 26D4 2 26EA 26EA 2 26F2 26F3 2 26F5 26F5 2 26FA 26FA 2 26FD 26FD 2 2705 2705 2",
   "270A 270B 2 2728 2728 2 274C 274C 2 274E 274E 2 2753 2755 2 2757 2757 2 2795 2797 2",
   "27B0 27B0 2 27BF 27BF 2 2B1B 2B1C 2 2B50 2B50 2 2B55 2B55 2 2CEF 2CF1 0 2DE0 2DFF 0",
   "2E80 2E99 2 2E9B 2EF3 2 2F00 2FD5 2 2FF0 3029 2 302A 302F 0 3030 303E 2 3041 3096 2",
   "3099 309A 0 309B 30FF 2 3105 312F 2 3131 3163 2 3164 3164 0 3165 318E 2 3190 31E5 2",
   "31EF 321E 2 3220 3247 2 3250 A48C 2 A490 A4C6 2 A66F A672 0 A674 A67D 0 A69E A69F 0",
   "A6F0 A6F1 0 A802 A802 0 A806 A806 0 A80B A80B 0 A825 A826 0 A82C A82C 0 A8C4 A8C5 0",
   "A8E0 A8F1 0 A8FA A8FA 0 A8FF A8FF 0 A926 A92D 0 A947 A951 0 A953 A953 0 A960 A97C 2",
   "A980 A982 0 A9B3 A9B3 0 A9B6 A9B9 0 A9BC A9BD 0 A9C0 A9C0 0 A9E5 A9E5 0 AA29 AA2E 0",
   "AA31 AA32 0 AA35 AA36 0 AA43 AA43 0 AA4C AA4C 0 AA7C AA7C 0 AAB0 AAB0 0 AAB2 AAB4 0",
   "AAB7 AAB8 0 AABE AABF 0 AAC1 AAC1 0 AAEC AAED 0 AAF6 AAF6 0 ABE5 ABE5 0 ABE8 ABE8 0",
   "ABED ABED 0 AC00 D7A3 2 D7B0 D7C6 0 D7CB D7FB 0 F900 FAFF 2 FB1E FB1E 0 FE00 FE0F 0",
   "FE10 FE19 2 FE20 FE2F 0 FE30 FE52 2 FE54 FE66 2 FE68 FE6B 2 FEFF FEFF 0 FF01 FF60 2",
   "FF9E FFA0 0 FFE0 FFE6 2 FFF0 FFF8 0 101FD 101FD 0 102E0 102E0 0 10376 1037A 0 10A01 10A03 0",
   "10A05 10A06 0 10A0C 10A0F 0 10A38 10A3A 0 10A3F 10A3F 0 10AE5 10AE6 0 10D24 10D27 0",
   "10D69 10D6D 0 10EAB 10EAC 0 10EFA 10EFF 0 10F46 10F50 0 10F82 10F85 0 11001 11001 0",
   "11038 11046 0 11070 11070 0 11073 11074 0 1107F 11081 0 110B3 110B6 0 110B9 110BA 0",
   "110C2 110C2 0 11100 11102 0 11127 1112B 0 1112D 11134 0 11173 11173 0 11180 11181 0",
   "111B6 111BE 0 111C0 111C0 0 111C2 111C3 0 111C9 111CC 0 111CF 111CF 0 1122F 11231 0",
   "11234 11237 0 1123E 1123E 0 11241 11241 0 112DF 112DF 0 112E3 112EA 0 11300 11301 0",
   "1133B 1133C 0 1133E 1133E 0 11340 11340 0 1134D 1134D 0 11357 11357 0 11366 1136C 0",
   "11370 11374 0 113B8 113B8 0 113BB 113C0 0 113C2 113C2 0 113C5 113C5 0 113C7 113C9 0",
   "113CE 113D2 0 113E1 113E2 0 11438 1143F 0 11442 11444 0 11446 11446 0 1145E 1145E 0",
   "114B0 114B0 0 114B3 114B8 0 114BA 114BA 0 114BD 114BD 0 114BF 114C0 0 114C2 114C3 0",
   "115AF 115AF 0 115B2 115B5 0 115BC 115BD 0 115BF 115C0 0 115DC 115DD 0 11633 1163A 0",
   "1163D 1163D 0 1163F 11640 0 116AB 116AB 0 116AD 116AD 0 116B0 116B7 0 1171D 1171D 0",
   "1171F 1171F 0 11722 11725 0 11727 1172B 0 1182F 11837 0 11839 1183A 0 11930 11930 0",
   "1193B 1193F 0 11941 11941 0 11943 11943 0 119D4 119D7 0 119DA 119DB 0 119E0 119E0 0",
   "11A01 11A0A 0 11A33 11A38 0 11A3B 11A3E 0 11A47 11A47 0 11A51 11A56 0 11A59 11A5B 0",
   "11A84 11A96 0 11A98 11A99 0 11B60 11B60 0 11B62 11B64 0 11B66 11B66 0 11C30 11C36 0",
   "11C38 11C3D 0 11C3F 11C3F 0 11C92 11CA7 0 11CAA 11CB0 0 11CB2 11CB3 0 11CB5 11CB6 0",
   "11D31 11D36 0 11D3A 11D3A 0 11D3C 11D3D 0 11D3F 11D47 0 11D90 11D91 0 11D95 11D95 0",
   "11D97 11D97 0 11EF3 11EF4 0 11F00 11F02 0 11F36 11F3A 0 11F40 11F42 0 11F5A 11F5A 0",
   "13440 13440 0 13447 13455 0 1611E 16129 0 1612D 1612F 0 16AF0 16AF4 0 16B30 16B36 0",
   "16F4F 16F4F 0 16F8F 16F92 0 16FE0 16FE3 2 16FE4 16FE4 0 16FF0 16FF1 0 16FF2 16FF6 2",
   "17000 18CD5 2 18CFF 18D1E 2 18D80 18DF2 2 1AFF0 1AFF3 2 1AFF5 1AFFB 2 1AFFD 1AFFE 2",
   "1B000 1B122 2 1B132 1B132 2 1B150 1B152 2 1B155 1B155 2 1B164 1B167 2 1B170 1B2FB 2",
   "1BC9D 1BC9E 0 1BCA0 1BCA3 0 1CF00 1CF2D 0 1CF30 1CF46 0 1D165 1D169 0 1D16D 1D182 0",
   "1D185 1D18B 0 1D1AA 1D1AD 0 1D242 1D244 0 1D300 1D356 2 1D360 1D376 2 1DA00 1DA36 0",
   "1DA3B 1DA6C 0 1DA75 1DA75 0 1DA84 1DA84 0 1DA9B 1DA9F 0 1DAA1 1DAAF 0 1E000 1E006 0",
   "1E008 1E018 0 1E01B 1E021 0 1E023 1E024 0 1E026 1E02A 0 1E08F 1E08F 0 1E130 1E136 0",
   "1E2AE 1E2AE 0 1E2EC 1E2EF 0 1E4EC 1E4EF 0 1E5EE 1E5EF 0 1E6E3 1E6E3 0 1E6E6 1E6E6 0",
   "1E6EE 1E6EF 0 1E6F5 1E6F5 0 1E8D0 1E8D6 0 1E944 1E94A 0 1F004 1F004 2 1F0CF 1F0CF 2",
   "1F18E 1F18E 2 1F191 1F19A 2 1F200 1F202 2 1F210 1F23B 2 1F240 1F248 2 1F250 1F251 2",
   "1F260 1F265 2 1F300 1F320 2 1F32D 1F335 2 1F337 1F37C 2 1F37E 1F393 2 1F3A0 1F3CA 2",
   "1F3CF 1F3D3 2 1F3E0 1F3F0 2 1F3F4 1F3F4 2 1F3F8 1F43E 2 1F440 1F440 2 1F442 1F4FC 2",
   "1F4FF 1F53D 2 1F54B 1F54E 2 1F550 1F567 2 1F57A 1F57A 2 1F595 1F596 2 1F5A4 1F5A4 2",
   "1F5FB 1F64F 2 1F680 1F6C5 2 1F6CC 1F6CC 2 1F6D0 1F6D2 2 1F6D5 1F6D8 2 1F6DC 1F6DF 2",
   "1F6EB 1F6EC 2 1F6F4 1F6FC 2 1F7E0 1F7EB 2 1F7F0 1F7F0 2 1F90C 1F93A 2 1F93C 1F945 2",
   "1F947 1F9FF 2 1FA70 1FA7C 2 1FA80 1FA8A 2 1FA8E 1FAC6 2 1FAC8 1FAC8 2 1FACD 1FADC 2",
   "1FADF 1FAEA 2 1FAEF 1FAF8 2 20000 2FFFD 2 30000 3FFFD 2 E0000 E0FFF 0"]

def columnTable : RunTable Nat := RunTable.ofTriples (rowNumbers columnRows)

def columns (n : Nat) : Nat := ((columnTable.find? n).map (·.value)).getD 1

end RequestSuite.Text
