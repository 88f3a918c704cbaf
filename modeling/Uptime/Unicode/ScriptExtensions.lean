import Uptime.Unicode.Script

/-!
# Script extensions

Some code points are used by several scripts. The table lists them; every other code point is used
by its own script only.
-/

namespace Uptime.Unicode

/-- The runs of code points with the codes of the scripts that use them, from zero on; a dash stands
for the code point's own script. -/
def extensionRuns : List String :=
  ["342.- 1.Grek 2.- 1.Grek 1d.- d.Latn 113.- 1.Cyrl+Perm 1.Cyrl+Glag 2.Cyrl+Latn 1.Cyrl+Glag",
   "184.- 1.Arab+Nkoo+Rohg+Syrc+Thaa+Yezi e.- 1.Arab+Nkoo+Rohg+Syrc+Thaa+Yezi 1.Arab+Syrc+Thaa 2.-",
   "1.Adlm+Arab+Nkoo+Rohg+Syrc+Thaa+Yezi 20.- 1.Adlm+Arab+Mand+Mani+Ougr+Phlp+Rohg+Sogd+Syrc a.-",
   "b.Arab+Syrc a.- a.Arab+Thaa+Yezi 6.- 1.Arab+Syrc 63.- 1.Arab+Rohg 27c.-",
   "1.Beng+Deva+Gran+Gujr+Guru+Knda+Latn+Mlym+Orya+Shrd+Taml+Telu+Tirh",
   "1.Beng+Deva+Gran+Gujr+Guru+Knda+Latn+Mlym+Orya+Taml+Telu+Tirh 11.-",
   "1.Beng+Deva+Dogr+Gong+Gonm+Gran+Gujr+Guru+Knda+Mahj+Mlym+Nand+Orya+Sind+Sinh+Sylo+Takr+Taml+Telu+Tirh",
   "1.Beng+Deva+Dogr+Gong+Gonm+Gran+Gujr+Guru+Knda+Limb+Mahj+Mlym+Nand+Orya+Sind+Sinh+Sylo+Takr+Taml+Telu+Tirh",
   "a.Deva+Dogr+Kthi+Mahj 76.- a.Beng+Cakm+Sylo 76.- a.Guru+Mult 76.- a.Gujr+Khoj f6.- e.Gran+Taml",
   "f2.- a.Knda+Nand 350.- a.Cakm+Mymr+Tale b1.- 1.Geor+Latn 639.- 2.Buhd+Hano+Tagb+Tglg cb.-",
   "2.Mong+Phag 1.- 1.Mong+Phag 4ca.- 1.Beng+Deva+Gran+Knda 1.Deva 1.Beng+Deva+Gran+Knda",
   "1.Deva+Gran 1.Deva 2.Beng+Deva 1.Deva+Shrd 1.Beng+Deva 1.Deva+Shrd",
   "1.Deva+Knda+Mlym+Orya+Taml+Telu 1.Deva 2.Deva+Shrd 2.Deva 1.Deva+Shrd 1.Beng+Deva 7.Deva",
   "1.Deva+Nand 1.Beng+Deva 2.Deva 1.Beng+Deva 4.Deva 1.Beng+Deva+Gran+Knda+Nand+Orya+Telu+Tirh",
   "1.Deva+Gran 1.Deva+Gran+Knda 2.Beng+Deva 1.Beng 2.Deva+Gran 1.Nand c5.- 2.Grek 36.-",
   "1.Cyrl+Syrc 1.- 1.Syrc 234.- 1.Latn+Mong c0.- 1.Deva+Gran+Latn d52.- 1.Cyrl+Glag 1bd.-",
   "2.Bopo+Hang+Hani+Hira+Kana+Yiii 1.Bopo+Hang+Hani+Hira+Kana 2.- 1.Hani 1.-",
   "a.Bopo+Hang+Hani+Hira+Kana+Yiii 1.- 1.Bopo+Hang+Hani+Hira+Kana 8.Bopo+Hang+Hani+Hira+Kana+Yiii",
   "4.Bopo+Hang+Hani+Hira+Kana a.- 4.Bopo+Hani 2.- 1.Bopo+Hang+Hani+Hira+Kana 5.Hira+Kana 1.-",
   "1.Bopo+Hang+Hani+Hira+Kana 4.- 2.Hani+Hira+Kana 2.Hani 59.- 4.Hira+Kana 3.- 1.Hira+Kana 5a.-",
   "1.Bopo+Hang+Hani+Hira+Kana+Yiii 1.Hira+Kana 93.- 10.Hani 20.- 24.Hani 3c.- 28.Hani 38.-",
   "31.Hani f.- c.Hani 33.- 1.Hani 58.- 19.Hani a.- 5.Hani 60.- 1f.Hani 7270.- 1.Cyrl+Glag 90.-",
   "8.Hani+Latn 128.- 3.Deva+Dogr+Gujr+Guru+Khoj+Knda+Kthi+Mahj+Mlym+Modi+Nand+Sind+Takr+Tirh",
   "3.Deva+Dogr+Gujr+Guru+Khoj+Knda+Kthi+Mahj+Modi+Nand+Sind+Takr+Tirh",
   "4.Deva+Dogr+Gujr+Guru+Khoj+Kthi+Mahj+Modi+Sind+Takr+Tirh b7.- 1.Beng+Deva 1.- 1.Deva+Taml 3a.-",
   "1.Kali+Latn+Mymr a0.- 1.Bugi+Java 536e.- 2.Arab+Nkoo b2.- 1.Arab+Thaa a.- 1.Arab+Thaa 47.-",
   "2.Bopo+Hang+Hani+Hira+Kana 11a.- 5.Bopo+Hang+Hani+Hira+Kana+Yiii a.- 1.Hira+Kana 2d.-",
   "2.Hira+Kana 160.- 2.Cpmn+Cprt+Linb 1.Cprt+Linb 4.- 2d.Cprt+Lina+Linb 3.- 9.Cprt+Linb 1a0.-",
   "1c.Arab+Copt 7f6.- 1.Mani+Ougr 80e.- 1.Gran+Taml 1.- 1.Gran+Taml 37.- 2.Gran+Taml c93.-",
   "2.Gran+Taml 1.- 1.Gran+Taml 9ccc.- 4.Dupl 16bc.- 12.Hani 1ede.- 2.Hani f0dae.-"]

/-- The code points that a script uses, by its code. -/
def extensionRanges (code : String) : Ranges :=
  let shared := runRanges (fun label => label != "-") extensionRuns
  let used := runRanges (fun label => (label.splitOn "+").contains code) extensionRuns
  ((scriptRanges code).minus shared).union used

end Uptime.Unicode
