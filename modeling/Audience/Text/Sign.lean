import Audience.Text.Table

/-!
# Signs

Signs, digits, spaces and characters that are not shown.
-/

namespace Audience.Text

/-- The property `White_Space`: spaces and line ends. -/
def whiteSpaceTable : Table Bool := .ofSteps "
  9 E 20 21 85 86 A0 A1 1680 1681 2000 200B 2028 202A 202F 2030 205F 2060 3000 3001"

/-- The property `ASCII_Hex_Digit`: hexadecimal digits of ASCII. -/
def asciiHexDigitTable : Table Bool := .ofSteps "
  30 3A 41 47 61 67"

/-- The property `Hex_Digit`: hexadecimal digits. -/
def hexDigitTable : Table Bool := .ofSteps "
  30 3A 41 47 61 67 FF10 FF1A FF21 FF27 FF41 FF47"

/-- The property `Math`: mathematical signs. -/
def mathTable : Table Bool := .ofSteps "
  2B 2C 3C 3F 5E 5F 7C 7D 7E 7F AC AD B1 B2 D7 D8 F7 F8 3D0 3D3 3D5 3D6 3F0 3F2 3F4 3F7 606 609
  2016 2017 2032 2035 2040 2041 2044 2045 2052 2053 2061 2065 207A 207F 208A 208F 20D0 20DD 20E1
  20E2 20E5 20E7 20EB 20F0 2102 2103 2107 2108 210A 2114 2115 2116 2118 211E 2124 2125 2128 212A
  212C 212E 212F 2132 2133 2139 213C 214A 214B 214C 2190 21A8 21A9 21AF 21B0 21B2 21B6 21B8 21BC
  21DC 21DD 21DE 21E4 21E6 21F4 2300 2308 230C 2320 2322 237C 237D 239B 23B6 23B7 23B8 23D0 23D1
  23DC 23E3 25A0 25A2 25AE 25B8 25BC 25C2 25C6 25C8 25CA 25CC 25CF 25D4 25E2 25E3 25E4 25E5 25E7
  25ED 25F8 2600 2605 2607 2640 2641 2642 2643 2660 2664 266D 2670 27C0 2800 2900 2B00 2B30 2B45
  2B47 2B4D FB29 FB2A FE61 FE67 FE68 FE69 FF0B FF0C FF1C FF1F FF3C FF3D FF3E FF3F FF5C FF5D FF5E
  FF5F FFE2 FFE3 FFE9 FFED 10D8E 10D90 1D400 1D455 1D456 1D49D 1D49E 1D4A0 1D4A2 1D4A3 1D4A5
  1D4A7 1D4A9 1D4AD 1D4AE 1D4BA 1D4BB 1D4BC 1D4BD 1D4C4 1D4C5 1D506 1D507 1D50B 1D50D 1D515 1D516
  1D51D 1D51E 1D53A 1D53B 1D53F 1D540 1D545 1D546 1D547 1D54A 1D551 1D552 1D6A6 1D6A8 1D7CC 1D7CE
  1D800 1EE00 1EE04 1EE05 1EE20 1EE21 1EE23 1EE24 1EE25 1EE27 1EE28 1EE29 1EE33 1EE34 1EE38 1EE39
  1EE3A 1EE3B 1EE3C 1EE42 1EE43 1EE47 1EE48 1EE49 1EE4A 1EE4B 1EE4C 1EE4D 1EE50 1EE51 1EE53 1EE54
  1EE55 1EE57 1EE58 1EE59 1EE5A 1EE5B 1EE5C 1EE5D 1EE5E 1EE5F 1EE60 1EE61 1EE63 1EE64 1EE65 1EE67
  1EE6B 1EE6C 1EE73 1EE74 1EE78 1EE79 1EE7D 1EE7E 1EE7F 1EE80 1EE8A 1EE8B 1EE9C 1EEA1 1EEA4 1EEA5
  1EEAA 1EEAB 1EEBC 1EEF0 1EEF2"

/-- The property `Other_Math`: what is used in mathematics against its category. -/
def otherMathTable : Table Bool := .ofSteps "
  5E 5F 3D0 3D3 3D5 3D6 3F0 3F2 3F4 3F6 2016 2017 2032 2035 2040 2041 2061 2065 207D 207F 208D
  208F 20D0 20DD 20E1 20E2 20E5 20E7 20EB 20F0 2102 2103 2107 2108 210A 2114 2115 2116 2119 211E
  2124 2125 2128 212A 212C 212E 212F 2132 2133 2139 213C 2140 2145 214A 2195 219A 219C 21A0 21A1
  21A3 21A4 21A6 21A7 21A8 21A9 21AE 21B0 21B2 21B6 21B8 21BC 21CE 21D0 21D2 21D3 21D4 21D5 21DC
  21DD 21DE 21E4 21E6 2308 230C 23B4 23B6 23B7 23B8 23D0 23D1 23E2 23E3 25A0 25A2 25AE 25B7 25BC
  25C1 25C6 25C8 25CA 25CC 25CF 25D4 25E2 25E3 25E4 25E5 25E7 25ED 2605 2607 2640 2641 2642 2643
  2660 2664 266D 266F 27C5 27C7 27E6 27F0 2983 2999 29D8 29DC 29FC 29FE FE61 FE62 FE63 FE64 FE68
  FE69 FF3C FF3D FF3E FF3F 1D400 1D455 1D456 1D49D 1D49E 1D4A0 1D4A2 1D4A3 1D4A5 1D4A7 1D4A9
  1D4AD 1D4AE 1D4BA 1D4BB 1D4BC 1D4BD 1D4C4 1D4C5 1D506 1D507 1D50B 1D50D 1D515 1D516 1D51D 1D51E
  1D53A 1D53B 1D53F 1D540 1D545 1D546 1D547 1D54A 1D551 1D552 1D6A6 1D6A8 1D6C1 1D6C2 1D6DB 1D6DC
  1D6FB 1D6FC 1D715 1D716 1D735 1D736 1D74F 1D750 1D76F 1D770 1D789 1D78A 1D7A9 1D7AA 1D7C3 1D7C4
  1D7CC 1D7CE 1D800 1EE00 1EE04 1EE05 1EE20 1EE21 1EE23 1EE24 1EE25 1EE27 1EE28 1EE29 1EE33 1EE34
  1EE38 1EE39 1EE3A 1EE3B 1EE3C 1EE42 1EE43 1EE47 1EE48 1EE49 1EE4A 1EE4B 1EE4C 1EE4D 1EE50 1EE51
  1EE53 1EE54 1EE55 1EE57 1EE58 1EE59 1EE5A 1EE5B 1EE5C 1EE5D 1EE5E 1EE5F 1EE60 1EE61 1EE63 1EE64
  1EE65 1EE67 1EE6B 1EE6C 1EE73 1EE74 1EE78 1EE79 1EE7D 1EE7E 1EE7F 1EE80 1EE8A 1EE8B 1EE9C 1EEA1
  1EEA4 1EEA5 1EEAA 1EEAB 1EEBC"

/-- The property `Dash`: dashes. -/
def dashTable : Table Bool := .ofSteps "
  2D 2E 58A 58B 5BE 5BF 1400 1401 1806 1807 2010 2016 2053 2054 207B 207C 208B 208C 2212 2213
  2E17 2E18 2E1A 2E1B 2E3A 2E3C 2E40 2E41 2E5D 2E5E 301C 301D 3030 3031 30A0 30A1 FE31 FE33 FE58
  FE59 FE63 FE64 FF0D FF0E 10D6E 10D6F 10EAD 10EAE"

/-- The property `Hyphen`: hyphens. -/
def hyphenTable : Table Bool := .ofSteps "
  2D 2E AD AE 58A 58B 1806 1807 2010 2012 2E17 2E18 30FB 30FC FE63 FE64 FF0D FF0E FF65 FF66"

/-- The property `Quotation_Mark`: quotation marks. -/
def quotationMarkTable : Table Bool := .ofSteps "
  22 23 27 28 AB AC BB BC 2018 2020 2039 203B 2E42 2E43 300C 3010 301D 3020 FE41 FE45 FF02 FF03
  FF07 FF08 FF62 FF64"

/-- The property `Terminal_Punctuation`: signs at the end of a phrase. -/
def terminalPunctuationTable : Table Bool := .ofSteps "
  21 22 2C 2D 2E 2F 3A 3C 3F 40 37E 37F 387 388 589 58A 5C3 5C4 60C 60D 61B 61C 61D 620 6D4 6D5
  700 70B 70C 70D 7F8 7FA 830 836 837 83F 85E 85F 964 966 E5A E5C F08 F09 F0D F13 104A 104C 1361
  1369 166E 166F 16EB 16EE 1735 1737 17D4 17D7 17DA 17DB 1802 1806 1808 180A 1944 1946 1AA8 1AAC
  1B4E 1B50 1B5A 1B5C 1B5D 1B60 1B7D 1B80 1C3B 1C40 1C7E 1C80 2024 2025 203C 203E 2047 204A 2CF9
  2CFC 2E2E 2E2F 2E3C 2E3D 2E41 2E42 2E4C 2E4D 2E4E 2E50 2E53 2E55 3001 3003 A4FE A500 A60D A610
  A6F3 A6F8 A876 A878 A8CE A8D0 A92F A930 A9C7 A9CA AA5D AA60 AADF AAE0 AAF0 AAF2 ABEB ABEC FE12
  FE13 FE15 FE17 FE50 FE53 FE54 FE58 FF01 FF02 FF0C FF0D FF0E FF0F FF1A FF1C FF1F FF20 FF61 FF62
  FF64 FF65 1039F 103A0 103D0 103D1 10857 10858 1091F 10920 10A56 10A58 10AF0 10AF6 10B3A 10B40
  10B99 10B9D 10F55 10F5A 10F86 10F8A 11047 1104E 110BE 110C2 11141 11144 111C5 111C7 111CD 111CE
  111DE 111E0 11238 1123D 112A9 112AA 113D4 113D6 1144B 1144E 1145A 1145C 115C2 115C6 115C9 115D8
  11641 11643 1173C 1173F 11944 11945 11946 11947 11A42 11A44 11A9B 11A9D 11AA1 11AA3 11C41 11C44
  11C71 11C72 11EF7 11EF9 11F43 11F45 12470 12475 16A6E 16A70 16AF5 16AF6 16B37 16B3A 16B44 16B45
  16D6E 16D70 16E97 16E99 1BC9F 1BCA0 1DA87 1DA8B"

/-- The property `Sentence_Terminal`: signs at the end of a sentence. -/
def sentenceTerminalTable : Table Bool := .ofSteps "
  21 22 2E 2F 3F 40 589 58A 61D 620 6D4 6D5 700 703 7F9 7FA 837 838 839 83A 83D 83F 964 966 104A
  104C 1362 1363 1367 1369 166E 166F 1735 1737 17D4 17D6 1803 1804 1809 180A 1944 1946 1AA8 1AAC
  1B4E 1B50 1B5A 1B5C 1B5E 1B60 1B7D 1B80 1C3B 1C3D 1C7E 1C80 2024 2025 203C 203E 2047 204A 2CF9
  2CFC 2E2E 2E2F 2E3C 2E3D 2E53 2E55 3002 3003 A4FF A500 A60E A610 A6F3 A6F4 A6F7 A6F8 A876 A878
  A8CE A8D0 A92F A930 A9C8 A9CA AA5D AA60 AAF0 AAF2 ABEB ABEC FE12 FE13 FE15 FE17 FE52 FE53 FE56
  FE58 FF01 FF02 FF0E FF0F FF1F FF20 FF61 FF62 10A56 10A58 10F55 10F5A 10F86 10F8A 11047 11049
  110BE 110C2 11141 11144 111C5 111C7 111CD 111CE 111DE 111E0 11238 1123A 1123B 1123D 112A9 112AA
  113D4 113D6 1144B 1144D 115C2 115C4 115C9 115D8 11641 11643 1173C 1173F 11944 11945 11946 11947
  11A42 11A44 11A9B 11A9D 11C41 11C43 11EF7 11EF9 11F43 11F45 16A6E 16A70 16AF5 16AF6 16B37 16B39
  16B44 16B45 16D6E 16D70 16E98 16E99 1BC9F 1BCA0 1DA88 1DA89"

/-- The property `Bidi_Control`: characters that set the direction of a text. -/
def bidiControlTable : Table Bool := .ofSteps "
  61C 61D 200E 2010 202A 202F 2066 206A"

/-- The property `Bidi_Mirrored`: signs mirrored in texts from right to left. -/
def bidiMirroredTable : Table Bool := .ofSteps "
  28 2A 3C 3D 3E 3F 5B 5C 5D 5E 7B 7C 7D 7E AB AC BB BC F3A F3E 169B 169D 2039 203B 2045 2047
  207D 207F 208D 208F 2140 2141 2201 2205 2208 220E 2211 2212 2215 2217 221A 221E 221F 2223 2224
  2225 2226 2227 222B 2234 2239 223A 223B 224D 2252 2256 225F 2261 2262 2263 2264 226C 226D 228D
  228F 2293 2298 2299 22A2 22A4 22A6 22B9 22BE 22C0 22C9 22CE 22D0 22D2 22D6 22EE 22F0 2300 2308
  230C 2320 2322 2329 232B 2768 2776 27C0 27C1 27C3 27C7 27C8 27CA 27CB 27CE 27D3 27D7 27DC 27DF
  27E2 27F0 2983 2999 299B 29A1 29A2 29B0 29B8 29B9 29C0 29C6 29C9 29CA 29CE 29D3 29D4 29D6 29D8
  29DD 29E1 29E2 29E3 29E6 29E8 29EA 29F4 29FA 29FC 29FE 2A0A 2A1D 2A1E 2A22 2A24 2A25 2A26 2A27
  2A29 2A2A 2A2B 2A2F 2A34 2A36 2A3C 2A3F 2A57 2A59 2A64 2A66 2A6A 2A6E 2A6F 2A71 2A73 2A75 2A79
  2AA4 2AA6 2AAE 2AAF 2AD7 2ADC 2ADD 2ADE 2ADF 2AE2 2AE7 2AEC 2AEF 2AF3 2AF4 2AF7 2AFC 2AFD 2AFE
  2BFE 2BFF 2E02 2E06 2E09 2E0B 2E0C 2E0E 2E1C 2E1E 2E20 2E2A 2E55 2E5D 3008 3012 3014 301C FE59
  FE5F FE64 FE66 FF08 FF0A FF1C FF1D FF1E FF1F FF3B FF3C FF3D FF3E FF5B FF5C FF5D FF5E FF5F FF61
  FF62 FF64 1D6DB 1D6DC 1D715 1D716 1D74F 1D750 1D789 1D78A 1D7C3 1D7C4"

/-- The property `Default_Ignorable_Code_Point`: what is not shown where it is not supported. -/
def defaultIgnorableCodePointTable : Table Bool := .ofSteps "
  AD AE 34F 350 61C 61D 115F 1161 17B4 17B6 180B 1810 200B 2010 202A 202F 2060 2070 3164 3165
  FE00 FE10 FEFF FF00 FFA0 FFA1 FFF0 FFF9 1BCA0 1BCA4 1D173 1D17B E0000 E1000"

/-- The property `Other_Default_Ignorable_Code_Point`: what is not shown against its category. -/
def otherDefaultIgnorableCodePointTable : Table Bool := .ofSteps "
  34F 350 115F 1161 17B4 17B6 2065 2066 3164 3165 FFA0 FFA1 FFF0 FFF9 E0000 E0001 E0002 E0020
  E0080 E0100 E01F0 E1000"

/-- The property `Noncharacter_Code_Point`: code points that are no characters. -/
def noncharacterCodePointTable : Table Bool := .ofSteps "
  FDD0 FDF0 FFFE 10000 1FFFE 20000 2FFFE 30000 3FFFE 40000 4FFFE 50000 5FFFE 60000 6FFFE 70000
  7FFFE 80000 8FFFE 90000 9FFFE A0000 AFFFE B0000 BFFFE C0000 CFFFE D0000 DFFFE E0000 EFFFE F0000
  FFFFE 100000 10FFFE"

/-- The property `Deprecated`: characters that should not be used. -/
def deprecatedTable : Table Bool := .ofSteps "
  149 14A 673 674 F77 F78 F79 F7A 17A3 17A5 206A 2070 2329 232B E0001 E0002"

end Audience.Text
