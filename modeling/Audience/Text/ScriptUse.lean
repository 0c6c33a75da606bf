import Audience.Text.Script

/-!
# Scripts that share characters

Some characters, mostly marks and punctuation, are used in several scripts, though `script` gives
them one. `scriptsOf` lists all scripts that a code point is used in.
-/

namespace Audience.Text

/-- The scripts of code points that are shared, joined by `+`; `=` stands where a code point belongs
to its own script alone. -/
def sharedScriptTable : Table String := .ofText "
  0:= B7:Avst+Cari+Copt+Dupl+Elba+Geor+Glag+Gong+Goth+Grek+Hani+Latn+Lydi+Mahj+Perm+Shaw B8:=
  2BC:Beng+Cyrl+Deva+Latn+Lisu+Thai+Toto 2BD:= 2C7:Bopo+Latn 2C8:= 2C9:Bopo+Latn 2CC:=
  2CD:Latn+Lisu 2CE:= 2D7:Latn+Thai 2D8:= 2D9:Bopo+Latn 2DA:=
  300:Cher+Copt+Cyrl+Grek+Latn+Perm+Sunu+Tale 301:Cher+Cyrl+Grek+Latn+Osge+Sunu+Tale+Todr
  302:Cher+Cyrl+Latn+Tfng 303:Glag+Latn+Sunu+Syrc+Thai
  304:Aghb+Cher+Copt+Cyrl+Goth+Grek+Latn+Osge+Syrc+Tfng+Todr 305:Copt+Elba+Glag+Goth+Kana+Latn
  306:Cyrl+Grek+Latn+Perm 307:Copt+Dupl+Hebr+Latn+Perm+Syrc+Tale+Tfng+Todr
  308:Armn+Cyrl+Dupl+Goth+Grek+Hebr+Latn+Perm+Syrc+Tale 309:Latn+Tfng 30A:Dupl+Latn+Syrc
  30B:Cher+Cyrl+Latn+Osge 30C:Cher+Latn+Tale 30D:Latn+Sunu 30E:Ethi+Latn 30F:= 310:Latn+Sunu
  311:Cyrl+Latn+Todr 312:= 313:Grek+Latn+Perm+Todr 314:= 320:Latn+Syrc 321:=
  323:Cher+Dupl+Kana+Latn+Syrc 324:Cher+Dupl+Latn+Syrc 325:Latn+Syrc 326:= 32D:Latn+Sunu+Syrc
  32E:Latn+Syrc 32F:= 330:Cher+Latn+Syrc 331:Aghb+Cher+Goth+Latn+Sunu+Thai 332:= 342:Grek 343:=
  345:Grek 346:= 358:Latn+Osge 359:= 35E:Aghb+Latn+Todr 35F:= 363:Latn 370:= 374:Copt+Grek 376:=
  483:Cyrl+Perm 484:Cyrl+Glag 485:Cyrl+Latn 487:Cyrl+Glag 488:= 589:Armn+Geor+Glag 58A:=
  60C:Arab+Gara+Nkoo+Rohg+Syrc+Thaa+Yezi 60D:= 61B:Arab+Gara+Nkoo+Rohg+Syrc+Thaa+Yezi
  61C:Arab+Syrc+Thaa 61D:= 61F:Adlm+Arab+Gara+Nkoo+Rohg+Syrc+Thaa+Yezi 620:=
  640:Adlm+Arab+Mand+Mani+Ougr+Phlp+Rohg+Sogd+Syrc 641:= 64B:Arab+Syrc 656:= 660:Arab+Thaa+Yezi
  66A:= 670:Arab+Syrc 671:= 6D4:Arab+Rohg 6D5:=
  951:Beng+Deva+Gran+Gujr+Guru+Knda+Latn+Mlym+Orya+Shrd+Taml+Telu+Tirh
  952:Beng+Deva+Gran+Gujr+Guru+Knda+Latn+Mlym+Orya+Taml+Telu+Tirh 953:=
  964:Beng+Deva+Dogr+Gong+Gonm+Gran+Gujr+Guru+Knda+Mahj+Mlym+Nand+Onao+Orya+Sind+Sinh+Sylo+Takr+Taml+Telu+Tirh
  965:Beng+Deva+Dogr+Gong+Gonm+Gran+Gujr+Gukh+Guru+Knda+Limb+Mahj+Mlym+Nand+Onao+Orya+Sind+Sinh+Sylo+Takr+Taml+Telu+Tirh
  966:Deva+Dogr+Kthi+Mahj 970:= 9E6:Beng+Cakm+Sylo 9F0:= A66:Guru+Mult A70:= AE6:Gujr+Khoj AF0:=
  BE6:Gran+Taml BF4:= CE6:Knda+Nand+Tutg CF0:= 1040:Cakm+Mymr+Tale 104A:= 10FB:Geor+Glag+Latn
  10FC:= 16EB:Runr 16EE:= 1735:Buhd+Hano+Tagb+Tglg 1737:= 1802:Mong+Phag 1804:= 1805:Mong+Phag
  1806:= 1CD0:Beng+Deva+Gran+Knda 1CD1:Deva 1CD2:Beng+Deva+Gran+Knda 1CD3:Deva+Gran+Knda
  1CD4:Deva 1CD5:Beng+Deva 1CD7:Deva+Shrd 1CD8:Beng+Deva 1CD9:Deva+Shrd
  1CDA:Deva+Knda+Mlym+Orya+Taml+Telu 1CDB:Deva 1CDC:Deva+Shrd 1CDE:Deva 1CE0:Deva+Shrd
  1CE1:Beng+Deva 1CE2:Deva 1CE9:Deva+Nand 1CEA:Beng+Deva 1CEB:Deva 1CED:Beng+Deva 1CEE:Deva
  1CF2:Beng+Deva+Gran+Knda+Mlym+Nand+Orya+Sinh+Telu+Tirh+Tutg 1CF3:Deva+Gran
  1CF4:Deva+Gran+Knda+Tutg 1CF5:Beng+Deva 1CF7:Beng 1CF8:Deva+Gran 1CFA:Nand 1CFB:= 1DC0:Grek
  1DC2:= 1DF8:Cyrl+Latn+Syrc 1DF9:= 1DFA:Syrc 1DFB:= 202F:Latn+Mong+Phag 2030:= 204F:Adlm+Arab
  2050:= 205A:Cari+Geor+Glag+Hung+Lyci+Orkh 205B:= 205D:Cari+Grek+Hung+Mero 205E:=
  20F0:Deva+Gran+Latn 20F1:= 2E17:Copt+Latn 2E18:= 2E30:Avst+Orkh
  2E31:Avst+Cari+Geor+Hung+Kthi+Lydi+Samr 2E32:= 2E3C:Dupl 2E3D:= 2E41:Adlm+Arab+Hung 2E42:=
  2E43:Cyrl+Glag 2E44:= 2FF0:Hani+Tang 3000:= 3001:Bopo+Hang+Hani+Hira+Kana+Mong+Yiii
  3002:Bopo+Hang+Hani+Hira+Kana+Mong+Phag+Yiii 3003:Bopo+Hang+Hani+Hira+Kana 3004:= 3006:Hani
  3007:= 3008:Bopo+Hang+Hani+Hira+Kana+Mong+Tibt+Yiii
  300A:Bopo+Hang+Hani+Hira+Kana+Lisu+Mong+Tibt+Yiii 300C:Bopo+Hang+Hani+Hira+Kana+Yiii 3012:=
  3013:Bopo+Hang+Hani+Hira+Kana 3014:Bopo+Hang+Hani+Hira+Kana+Yiii 301C:Bopo+Hang+Hani+Hira+Kana
  3020:= 302A:Bopo+Hani 302E:= 3030:Bopo+Hang+Hani+Hira+Kana 3031:Hira+Kana 3036:=
  3037:Bopo+Hang+Hani+Hira+Kana 3038:= 303C:Hani+Hira+Kana 303E:Hani 3040:= 3099:Hira+Kana 309D:=
  30A0:Hira+Kana 30A1:= 30FB:Bopo+Hang+Hani+Hira+Kana+Yiii 30FC:Hira+Kana 30FD:= 3190:Hani 31A0:=
  31C0:Hani 31E6:= 31EF:Hani+Tang 31F0:= 3220:Hani 3248:= 3280:Hani 32B1:= 32C0:Hani 32CC:=
  32FF:Hani 3300:= 3358:Hani 3371:= 337B:Hani 3380:= 33E0:Hani 33FF:= A66F:Cyrl+Glag A670:=
  A700:Hani+Latn A708:=
  A830:Deva+Dogr+Gujr+Guru+Khoj+Knda+Kthi+Mahj+Mlym+Modi+Nand+Shrd+Sind+Takr+Tirh+Tutg
  A833:Deva+Dogr+Gujr+Guru+Khoj+Knda+Kthi+Mahj+Modi+Nand+Shrd+Sind+Takr+Tirh+Tutg
  A836:Deva+Dogr+Gujr+Guru+Khoj+Kthi+Mahj+Modi+Sind+Takr+Tirh
  A838:Deva+Dogr+Gujr+Guru+Khoj+Kthi+Mahj+Modi+Shrd+Sind+Takr+Tirh
  A839:Deva+Dogr+Gujr+Guru+Khoj+Kthi+Mahj+Modi+Sind+Takr+Tirh A83A:= A8F1:Beng+Deva+Tutg A8F2:=
  A8F3:Deva+Taml A8F4:= A92E:Kali+Latn+Mymr A92F:= A9CF:Bugi+Java A9D0:= FD3E:Arab+Nkoo FD40:=
  FDF2:Arab+Thaa FDF3:= FDFD:Arab+Thaa FDFE:= FE45:Bopo+Hang+Hani+Hira+Kana FE47:=
  FF61:Bopo+Hang+Hani+Hira+Kana+Yiii FF66:= FF70:Hira+Kana FF71:= FF9E:Hira+Kana FFA0:=
  10100:Cpmn+Cprt+Linb 10102:Cprt+Linb 10103:= 10107:Cprt+Lina+Linb 10134:= 10137:Cprt+Linb
  10140:= 102E0:Arab+Copt 102FC:= 10AF2:Mani+Ougr 10AF3:= 11301:Gran+Taml 11302:= 11303:Gran+Taml
  11304:= 1133B:Gran+Taml 1133D:= 11FD0:Gran+Taml 11FD2:= 11FD3:Gran+Taml 11FD4:= 1BCA0:Dupl
  1BCA4:= 1D360:Hani 1D372:= 1F250:Hani 1F252:="

/-- The scripts that a code point is used in. -/
def scriptsOf (n : Nat) : List String :=
  match sharedScriptTable.value? n with
  | some "=" | none => [script n]
  | some shared => shared.splitOn "+"

end Audience.Text
