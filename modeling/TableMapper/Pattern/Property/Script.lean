import TableMapper.Pattern.CodePoints
import TableMapper.Text.Search

/-!
# Scripts

Every assigned character has one script, written with a code of four letters; `Zyyy` is common to
all scripts, and `Zinh` is inherited from the character in front.  Some characters are used with
several scripts, which are their script extensions; of the others the script is the only extension.

* `ofScript` and `ofScriptExtension` are the sets of the characters with a script.
* `script?` finds the code of a script by its name.
-/

namespace TableMapper

namespace Pattern

/-- The scripts of the code points from zero on, as slices.  `Zzzz` stands for no script. -/
def scriptSlices : List String :=
  ["Zyyy:1t Latn:q Zyyy:6 Latn:q Zyyy:1b Latn Zyyy:f Latn Zyyy:5 Latn:n Zyyy Latn:v Zyyy",
   "Latn:ch Zyyy:13 Latn:5 Zyyy:5 Bopo:2 Zyyy:k Zinh:34 Grek:4 Zyyy Grek:3 Zzzz:2 Grek:4",
   "Zyyy Grek Zzzz:4 Grek Zyyy Grek Zyyy Grek:3 Zzzz Grek Zzzz Grek:k Zzzz Grek:1r Copt:e",
   "Grek:g Cyrl:3p Zinh:2 Cyrl:4p Zzzz Armn:12 Zzzz:2 Armn:1e Zzzz:2 Armn:3 Zzzz Hebr:1j",
   "Zzzz:8 Hebr:r Zzzz:4 Hebr:6 Zzzz:b Arab:5 Zyyy Arab:6 Zyyy Arab:e Zyyy Arab:3 Zyyy",
   "Arab:w Zyyy Arab:a Zinh:b Arab:q Zinh Arab:30 Zyyy Arab:y Syrc:e Zzzz Syrc:1o Zzzz:2",
   "Syrc:3 Arab:1c Thaa:1e Zzzz:e Nkoo:1n Zzzz:2 Nkoo:3 Samr:1a Zzzz:2 Samr:f Zzzz Mand:s",
   "Zzzz:2 Mand Zzzz Syrc:b Zzzz:5 Arab:v Zzzz Arab:2 Zzzz:5 Arab:23 Zyyy Arab:t Deva:29",
   "Zinh:4 Deva:f Zyyy:2 Deva:q Beng:4 Zzzz Beng:8 Zzzz:2 Beng:2 Zzzz:2 Beng:m Zzzz Beng:7",
   "Zzzz Beng Zzzz:3 Beng:4 Zzzz:2 Beng:9 Zzzz:2 Beng:2 Zzzz:2 Beng:4 Zzzz:8 Beng Zzzz:4",
   "Beng:2 Zzzz Beng:5 Zzzz:2 Beng:p Zzzz:2 Guru:3 Zzzz Guru:6 Zzzz:4 Guru:2 Zzzz:2 Guru:m",
   "Zzzz Guru:7 Zzzz Guru:2 Zzzz Guru:2 Zzzz Guru:2 Zzzz:2 Guru Zzzz Guru:5 Zzzz:4 Guru:2",
   "Zzzz:2 Guru:3 Zzzz:3 Guru Zzzz:7 Guru:4 Zzzz Guru Zzzz:7 Guru:h Zzzz:a Gujr:3 Zzzz",
   "Gujr:9 Zzzz Gujr:3 Zzzz Gujr:m Zzzz Gujr:7 Zzzz Gujr:2 Zzzz Gujr:5 Zzzz:2 Gujr:a Zzzz",
   "Gujr:3 Zzzz Gujr:3 Zzzz:2 Gujr Zzzz:f Gujr:4 Zzzz:2 Gujr:c Zzzz:7 Gujr:7 Zzzz Orya:3",
   "Zzzz Orya:8 Zzzz:2 Orya:2 Zzzz:2 Orya:m Zzzz Orya:7 Zzzz Orya:2 Zzzz Orya:5 Zzzz:2",
   "Orya:9 Zzzz:2 Orya:2 Zzzz:2 Orya:3 Zzzz:7 Orya:3 Zzzz:4 Orya:2 Zzzz Orya:5 Zzzz:2",
   "Orya:i Zzzz:a Taml:2 Zzzz Taml:6 Zzzz:3 Taml:3 Zzzz Taml:4 Zzzz:3 Taml:2 Zzzz Taml",
   "Zzzz Taml:2 Zzzz:3 Taml:2 Zzzz:3 Taml:3 Zzzz:3 Taml:c Zzzz:4 Taml:5 Zzzz:3 Taml:3 Zzzz",
   "Taml:4 Zzzz:2 Taml Zzzz:6 Taml Zzzz:e Taml:l Zzzz:5 Telu:d Zzzz Telu:3 Zzzz Telu:n",
   "Zzzz Telu:g Zzzz:2 Telu:9 Zzzz Telu:3 Zzzz Telu:4 Zzzz:7 Telu:2 Zzzz Telu:3 Zzzz:2",
   "Telu Zzzz:2 Telu:4 Zzzz:2 Telu:a Zzzz:7 Telu:9 Knda:d Zzzz Knda:3 Zzzz Knda:n Zzzz",
   "Knda:a Zzzz Knda:5 Zzzz:2 Knda:9 Zzzz Knda:3 Zzzz Knda:4 Zzzz:7 Knda:2 Zzzz:6 Knda:2",
   "Zzzz Knda:4 Zzzz:2 Knda:a Zzzz Knda:3 Zzzz:c Mlym:d Zzzz Mlym:3 Zzzz Mlym:1f Zzzz",
   "Mlym:3 Zzzz Mlym:6 Zzzz:4 Mlym:g Zzzz:2 Mlym:q Zzzz Sinh:3 Zzzz Sinh:i Zzzz:3 Sinh:o",
   "Zzzz Sinh:9 Zzzz Sinh Zzzz:2 Sinh:7 Zzzz:3 Sinh Zzzz:4 Sinh:6 Zzzz Sinh Zzzz Sinh:8",
   "Zzzz:6 Sinh:a Zzzz:2 Sinh:3 Zzzz:c Thai:1m Zzzz:4 Zyyy Thai:s Zzzz:11 Laoo:2 Zzzz Laoo",
   "Zzzz Laoo:5 Zzzz Laoo:o Zzzz Laoo Zzzz Laoo:n Zzzz:2 Laoo:5 Zzzz Laoo Zzzz Laoo:7 Zzzz",
   "Laoo:a Zzzz:2 Laoo:4 Zzzz:w Tibt:20 Zzzz Tibt:10 Zzzz:4 Tibt:13 Zzzz Tibt:10 Zzzz",
   "Tibt:f Zzzz Tibt:7 Zyyy:4 Tibt:2 Zzzz:11 Mymr:4g Geor:12 Zzzz Geor Zzzz:5 Geor Zzzz:2",
   "Geor:17 Zyyy Geor:4 Hang:74 Ethi:21 Zzzz Ethi:4 Zzzz:2 Ethi:7 Zzzz Ethi Zzzz Ethi:4",
   "Zzzz:2 Ethi:15 Zzzz Ethi:4 Zzzz:2 Ethi:x Zzzz Ethi:4 Zzzz:2 Ethi:7 Zzzz Ethi Zzzz",
   "Ethi:4 Zzzz:2 Ethi:f Zzzz Ethi:1l Zzzz Ethi:4 Zzzz:2 Ethi:1v Zzzz:2 Ethi:w Zzzz:3",
   "Ethi:q Zzzz:6 Cher:2e Zzzz:2 Cher:6 Zzzz:2 Cans:hs Ogam:t Zzzz:3 Runr:23 Zyyy:3 Runr:b",
   "Zzzz:7 Tglg:m Zzzz:9 Tglg Hano:l Zyyy:2 Zzzz:9 Buhd:k Zzzz:c Tagb:d Zzzz Tagb:3 Zzzz",
   "Tagb:2 Zzzz:c Khmr:2m Zzzz:2 Khmr:a Zzzz:6 Khmr:a Zzzz:6 Mong:2 Zyyy:2 Mong Zyyy",
   "Mong:k Zzzz:6 Mong:2h Zzzz:7 Mong:17 Zzzz:5 Cans:1y Zzzz:a Limb:v Zzzz Limb:c Zzzz:4",
   "Limb:c Zzzz:4 Limb Zzzz:3 Limb:c Tale:u Zzzz:2 Tale:5 Zzzz:b Talu:18 Zzzz:4 Talu:q",
   "Zzzz:6 Talu:b Zzzz:3 Talu:2 Khmr:w Bugi:s Zzzz:2 Bugi:2 Lana:1r Zzzz Lana:t Zzzz:2",
   "Lana:b Zzzz:6 Lana:a Zzzz:6 Lana:e Zzzz:2 Zinh:v Zzzz:1d Bali:25 Zzzz Bali:1e Sund:1s",
   "Batk:1g Zzzz:8 Batk:4 Lepc:1k Zzzz:3 Lepc:f Zzzz:3 Lepc:3 Olck:1c Cyrl:b Zzzz:5",
   "Geor:17 Zzzz:2 Geor:3 Sund:8 Zzzz:8 Zinh:3 Zyyy Zinh:d Zyyy Zinh:7 Zyyy:4 Zinh Zyyy:6",
   "Zinh Zyyy:3 Zinh:2 Zyyy Zzzz:5 Latn:12 Grek:5 Cyrl Latn:1d Grek:5 Latn:4 Grek:5 Latn:d",
   "Cyrl Latn:1y Grek Zinh:1s Latn:74 Grek:m Zzzz:2 Grek:6 Zzzz:2 Grek:12 Zzzz:2 Grek:6",
   "Zzzz:2 Grek:8 Zzzz Grek Zzzz Grek Zzzz Grek Zzzz Grek:v Zzzz:2 Grek:1h Zzzz Grek:f",
   "Zzzz Grek:e Zzzz:2 Grek:6 Zzzz Grek:j Zzzz:2 Grek:3 Zzzz Grek:9 Zzzz Zyyy:c Zinh:2",
   "Zyyy:2f Zzzz Zyyy:b Latn Zzzz:2 Zyyy:b Latn Zyyy:f Zzzz Latn:d Zzzz:3 Zyyy:x Zzzz:f",
   "Zinh:x Zzzz:f Zyyy:12 Grek Zyyy:3 Latn:2 Zyyy:6 Latn Zyyy:r Latn Zyyy:h Latn:15 Zyyy:3",
   "Zzzz:4 Zyyy:ii Zzzz:m Zyyy:b Zzzz:l Zyyy:ps Brai:74 Zyyy:hg Zzzz:2 Zyyy:w Zzzz Zyyy:2x",
   "Glag:2o Latn:w Copt:38 Zzzz:5 Copt:7 Geor:12 Zzzz Geor Zzzz:5 Geor Zzzz:2 Tfng:1k",
   "Zzzz:7 Tfng:2 Zzzz:e Tfng Ethi:n Zzzz:9 Ethi:7 Zzzz Ethi:7 Zzzz Ethi:7 Zzzz Ethi:7",
   "Zzzz Ethi:7 Zzzz Ethi:7 Zzzz Ethi:7 Zzzz Ethi:7 Zzzz Cyrl:w Zyyy:2m Zzzz:y Hani:q Zzzz",
   "Hani:2h Zzzz:c Hani:5y Zzzz:q Zyyy:l Hani Zyyy Hani Zyyy:p Hani:9 Zinh:4 Hang:2 Zyyy:8",
   "Hani:4 Zyyy:4 Zzzz Hira:2e Zzzz:2 Zinh:2 Zyyy:2 Hira:3 Zyyy Kana:2i Zyyy:2 Kana:3",
   "Zzzz:5 Bopo:17 Zzzz Hang:2m Zzzz Zyyy:g Bopo:w Zyyy:12 Zzzz:9 Zyyy Kana:g Hang:v Zzzz",
   "Zyyy:1s Hang:v Zyyy:29 Kana:1b Zyyy Kana:2g Zyyy:4o Hani:534 Zyyy:1s Hani:g74 Yiii:wd",
   "Zzzz:3 Yiii:1j Zzzz:9 Lisu:1c Vaii:8c Zzzz:k Cyrl:2o Bamu:2g Zzzz:8 Zyyy:y Latn:2u",
   "Zyyy:3 Latn:1v Zzzz:2 Latn:2 Zzzz Latn Zzzz Latn:8 Zzzz:l Latn:e Sylo:19 Zzzz:3 Zyyy:a",
   "Zzzz:6 Phag:1k Zzzz:8 Saur:1y Zzzz:8 Saur:c Zzzz:6 Deva:w Kali:1a Zyyy Kali Rjng:10",
   "Zzzz:b Rjng Hang:t Zzzz:3 Java:26 Zzzz Zyyy Java:a Zzzz:4 Java:2 Mymr:v Zzzz Cham:1j",
   "Zzzz:9 Cham:e Zzzz:2 Cham:a Zzzz:2 Cham:4 Mymr:w Tavt:1v Zzzz:o Tavt:5 Mtei:n Zzzz:a",
   "Ethi:6 Zzzz:2 Ethi:6 Zzzz:2 Ethi:6 Zzzz:9 Ethi:7 Zzzz Ethi:7 Zzzz Latn:17 Zyyy Latn:9",
   "Grek Latn:4 Zyyy:2 Zzzz:4 Cher:28 Mtei:1a Zzzz:2 Mtei:a Zzzz:6 Hang:8mc Zzzz:c Hang:n",
   "Zzzz:4 Hang:1d Zzzz:6is Hani:a6 Zzzz:2 Hani:2y Zzzz:12 Latn:7 Zzzz:c Armn:5 Zzzz:5",
   "Hebr:q Zzzz Hebr:5 Zzzz Hebr Zzzz Hebr:2 Zzzz Hebr:2 Zzzz Hebr:a Arab:37 Zzzz:g",
   "Arab:a3 Zyyy:2 Arab:28 Zzzz:2 Arab:1i Zzzz:7 Arab Zzzz:w Arab:g Zinh:g Zyyy:a Zzzz:6",
   "Zinh:e Cyrl:2 Zyyy:z Zzzz Zyyy:j Zzzz Zyyy:4 Zzzz:4 Arab:5 Zzzz Arab:3r Zzzz:2 Zyyy",
   "Zzzz Zyyy:w Latn:q Zyyy:6 Latn:q Zyyy:b Kana:a Zyyy Kana:19 Zyyy:2 Hang:v Zzzz:3",
   "Hang:6 Zzzz:2 Hang:6 Zzzz:2 Hang:6 Zzzz:2 Hang:3 Zzzz:3 Zyyy:7 Zzzz Zyyy:7 Zzzz:a",
   "Zyyy:5 Zzzz:2 Linb:c Zzzz Linb:q Zzzz Linb:j Zzzz Linb:2 Zzzz Linb:f Zzzz:2 Linb:e",
   "Zzzz:y Linb:3f Zzzz:5 Zyyy:3 Zzzz:4 Zyyy:19 Zzzz:3 Zyyy:9 Grek:27 Zzzz Zyyy:d Zzzz:3",
   "Grek Zzzz:1b Zyyy:19 Zinh Zzzz:3m Lyci:t Zzzz:3 Cari:1d Zzzz:f Zinh Zyyy:r Zzzz:4",
   "Ital:10 Zzzz:9 Ital:3 Goth:r Zzzz:5 Perm:17 Zzzz:5 Ugar:u Zzzz Ugar Xpeo:10 Zzzz:4",
   "Xpeo:e Zzzz:16 Dsrt:28 Shaw:1c Osma:u Zzzz:2 Osma:a Zzzz:6 Osge:10 Zzzz:4 Osge:10",
   "Zzzz:4 Elba:14 Zzzz:8 Aghb:1g Zzzz:b Aghb Vith:b Zzzz Vith:f Zzzz Vith:7 Zzzz Vith:2",
   "Zzzz Vith:b Zzzz Vith:f Zzzz Vith:7 Zzzz Vith:2 Zzzz:3 Todr:1g Zzzz:c Lina:8n Zzzz:9",
   "Lina:m Zzzz:a Lina:8 Zzzz:o Latn:6 Zzzz Latn:16 Zzzz Latn:9 Zzzz:1x Cprt:6 Zzzz:2 Cprt",
   "Zzzz Cprt:18 Zzzz Cprt:2 Zzzz:3 Cprt Zzzz:2 Cprt Armi:m Zzzz Armi:9 Palm:w Nbat:v",
   "Zzzz:8 Nbat:9 Zzzz:1c Hatr:j Zzzz Hatr:2 Zzzz:5 Hatr:5 Phnx:s Zzzz:3 Phnx Lydi:q",
   "Zzzz:5 Lydi Zzzz:1s Mero:w Merc:o Zzzz:4 Merc:k Zzzz:2 Merc:1a Khar:4 Zzzz Khar:2",
   "Zzzz:5 Khar:8 Zzzz Khar:3 Zzzz Khar:t Zzzz:2 Khar:3 Zzzz:4 Khar:a Zzzz:7 Khar:9 Zzzz:7",
   "Sarb:w Narb:w Zzzz:w Mani:13 Zzzz:4 Mani:c Zzzz:9 Avst:1i Zzzz:3 Avst:7 Prti:m Zzzz:2",
   "Prti:8 Phli:j Zzzz:5 Phli:8 Phlp:i Zzzz:7 Phlp:4 Zzzz:c Phlp:7 Zzzz:28 Orkh:21 Zzzz:1j",
   "Hung:1f Zzzz:d Hung:1f Zzzz:7 Hung:6 Rohg:14 Zzzz:8 Rohg:a Zzzz:6 Gara:12 Zzzz:3",
   "Gara:t Zzzz:8 Gara:2 Zzzz:5s Arab:v Zzzz Yezi:16 Zzzz Yezi:3 Zzzz:2 Yezi:2 Zzzz:g",
   "Arab:3 Zzzz:1j Arab:4 Sogo:14 Zzzz:8 Sogd:16 Zzzz:m Ougr:q Zzzz:12 Chrs:s Zzzz:k",
   "Elym:n Zzzz:9 Brah:26 Zzzz:4 Brah:10 Zzzz:9 Brah Kthi:1v Zzzz:a Kthi Zzzz:2 Sora:p",
   "Zzzz:7 Sora:a Zzzz:6 Cakm:1h Zzzz Cakm:i Zzzz:8 Mahj:13 Zzzz:9 Shrd:2o Zzzz Sinh:k",
   "Zzzz:b Khoj:i Zzzz Khoj:1b Zzzz:1q Mult:7 Zzzz Mult Zzzz Mult:4 Zzzz Mult:f Zzzz",
   "Mult:b Zzzz:6 Sind:1n Zzzz:5 Sind:a Zzzz:6 Gran:4 Zzzz Gran:8 Zzzz:2 Gran:2 Zzzz:2",
   "Gran:m Zzzz Gran:7 Zzzz Gran:2 Zzzz Gran:5 Zzzz Zinh Gran:9 Zzzz:2 Gran:2 Zzzz:2",
   "Gran:3 Zzzz:2 Gran Zzzz:6 Gran Zzzz:5 Gran:7 Zzzz:2 Gran:7 Zzzz:3 Gran:5 Zzzz:b Tutg:a",
   "Zzzz Tutg Zzzz:2 Tutg Zzzz Tutg:12 Zzzz Tutg:a Zzzz Tutg Zzzz:2 Tutg Zzzz Tutg:4 Zzzz",
   "Tutg:a Zzzz Tutg:2 Zzzz:8 Tutg:2 Zzzz:t Newa:2k Zzzz Newa:5 Zzzz:u Tirh:20 Zzzz:8",
   "Tirh:a Zzzz:4m Sidd:1i Zzzz:2 Sidd:12 Zzzz:y Modi:1x Zzzz:b Modi:a Zzzz:6 Mong:d",
   "Zzzz:j Takr:1m Zzzz:6 Takr:a Zzzz:6 Mymr:k Zzzz:s Ahom:r Zzzz:2 Ahom:f Zzzz:4 Ahom:n",
   "Zzzz:55 Dogr:1o Zzzz:2s Wara:2b Zzzz:c Wara Diak:7 Zzzz:2 Diak Zzzz:2 Diak:8 Zzzz",
   "Diak:2 Zzzz Diak:u Zzzz Diak:2 Zzzz:2 Diak:c Zzzz:9 Diak:a Zzzz:1y Nand:8 Zzzz:2",
   "Nand:1a Zzzz:2 Nand:b Zzzz:r Zanb:20 Zzzz:8 Soyo:2b Zzzz:d Cans:g Pauc:1l Zzzz:7",
   "Deva:a Zzzz:52 Sunu:y Zzzz:e Sunu:a Zzzz:6 Bhks:9 Zzzz Bhks:19 Zzzz Bhks:e Zzzz:a",
   "Bhks:t Zzzz:3 Marc:w Zzzz:2 Marc:m Zzzz Marc:e Zzzz:21 Gonm:7 Zzzz Gonm:2 Zzzz Gonm:18",
   "Zzzz:3 Gonm Zzzz Gonm:2 Zzzz Gonm:9 Zzzz:8 Gonm:a Zzzz:6 Gong:6 Zzzz Gong:2 Zzzz",
   "Gong:11 Zzzz Gong:2 Zzzz Gong:6 Zzzz:7 Gong:a Zzzz:8m Maka:p Zzzz:7 Kawi:h Zzzz",
   "Kawi:15 Zzzz:3 Kawi:t Zzzz:2d Lisu Zzzz:f Taml:1e Zzzz:d Taml Xsux:pm Zzzz:2u Xsux:33",
   "Zzzz Xsux:5 Zzzz:b Xsux:5g Zzzz:218 Cpmn:2r Zzzz:d Egyp:uu Zzzz:a Egyp:32z Zzzz:5",
   "Hluw:g7 Zzzz:5a1 Gukh:1m Zzzz:1c6 Bamu:ft Zzzz:7 Mroo:v Zzzz Mroo:a Zzzz:4 Mroo:2",
   "Tnsa:27 Zzzz Tnsa:a Zzzz:6 Bass:u Zzzz:2 Bass:6 Zzzz:a Hmng:1y Zzzz:a Hmng:a Zzzz",
   "Hmng:7 Zzzz Hmng:l Zzzz:5 Hmng:j Zzzz:c0 Krai:1m Zzzz:5i Medf:2j Zzzz:2t Plrd:23",
   "Zzzz:4 Plrd:1l Zzzz:7 Plrd:h Zzzz:1s Tang Nshu Hani:2 Kits Zzzz:b Hani:2 Zzzz:e",
   "Tang:4qg Zzzz:8 Tang:lc Kits:d2 Zzzz:15 Kits Tang:9 Zzzz:6w7 Kana:4 Zzzz Kana:7 Zzzz",
   "Kana:2 Zzzz Kana Hira:7z Kana:3 Zzzz:f Hira Zzzz:t Hira:3 Zzzz:2 Kana Zzzz:e Kana:4",
   "Zzzz:8 Nshu:b0 Zzzz:1s4 Dupl:2z Zzzz:5 Dupl:d Zzzz:3 Dupl:9 Zzzz:7 Dupl:a Zzzz:2",
   "Dupl:4 Zyyy:4 Zzzz:318 Zyyy:6y Zzzz:6 Zyyy:c4 Zzzz:24 Zinh:1a Zzzz:2 Zinh:n Zzzz:9",
   "Zyyy:38 Zzzz:1o Zyyy:6u Zzzz:a Zyyy:13 Zzzz:2 Zyyy:1q Zinh:3 Zyyy:h Zinh:8 Zyyy:2",
   "Zinh:7 Zyyy:u Zinh:4 Zyyy:1p Zzzz:l Grek:1y Zzzz:3e Zyyy:k Zzzz:c Zyyy:k Zzzz:c",
   "Zyyy:2f Zzzz:9 Zyyy:p Zzzz:3r Zyyy:2d Zzzz Zyyy:1z Zzzz Zyyy:2 Zzzz:2 Zyyy Zzzz:2",
   "Zyyy:2 Zzzz:2 Zyyy:4 Zzzz Zyyy:c Zzzz Zyyy Zzzz Zyyy:7 Zzzz Zyyy:1t Zzzz Zyyy:4 Zzzz:2",
   "Zyyy:8 Zzzz Zyyy:7 Zzzz Zyyy:s Zzzz Zyyy:4 Zzzz Zyyy:5 Zzzz Zyyy Zzzz:3 Zyyy:7 Zzzz",
   "Zyyy:9g Zzzz:2 Zyyy:84 Zzzz:2 Zyyy:1e Sgnw:i4 Zzzz:f Sgnw:5 Zzzz Sgnw:f Zzzz:uo Latn:v",
   "Zzzz:6 Latn:6 Zzzz:5x Glag:7 Zzzz Glag:h Zzzz:2 Glag:7 Zzzz Glag:2 Zzzz Glag:5 Zzzz:5",
   "Cyrl:1q Zzzz:x Cyrl Zzzz:34 Hmnp:19 Zzzz:3 Hmnp:e Zzzz:2 Hmnp:a Zzzz:4 Hmnp:2 Zzzz:8w",
   "Toto:v Zzzz:h Wcho:1m Zzzz:5 Wcho Zzzz:cw Nagm:16 Zzzz:5y Onao:17 Zzzz:4 Onao Zzzz:dc",
   "Ethi:7 Zzzz Ethi:4 Zzzz Ethi:2 Zzzz Ethi:f Zzzz Mend:5h Zzzz:2 Mend:g Zzzz:15 Adlm:24",
   "Zzzz:4 Adlm:a Zzzz:4 Adlm:2 Zzzz:lt Zyyy:1w Zzzz:24 Zyyy:1p Zzzz:5e Arab:4 Zzzz Arab:r",
   "Zzzz Arab:2 Zzzz Arab Zzzz:2 Arab Zzzz Arab:a Zzzz Arab:4 Zzzz Arab Zzzz Arab Zzzz:6",
   "Arab Zzzz:4 Arab Zzzz Arab Zzzz Arab Zzzz Arab:3 Zzzz Arab:2 Zzzz Arab Zzzz:2 Arab",
   "Zzzz Arab Zzzz Arab Zzzz Arab Zzzz Arab Zzzz Arab:2 Zzzz Arab Zzzz:2 Arab:4 Zzzz",
   "Arab:7 Zzzz Arab:4 Zzzz Arab:4 Zzzz Arab Zzzz Arab:a Zzzz Arab:h Zzzz:5 Arab:3 Zzzz",
   "Arab:5 Zzzz Arab:h Zzzz:1g Arab:2 Zzzz:7i Zyyy:18 Zzzz:4 Zyyy:2s Zzzz:c Zyyy:f Zzzz:2",
   "Zyyy:f Zzzz Zyyy:f Zzzz Zyyy:11 Zzzz:a Zyyy:4u Zzzz:1k Zyyy:q Hira Zyyy:2 Zzzz:d",
   "Zyyy:18 Zzzz:4 Zyyy:9 Zzzz:7 Zyyy:2 Zzzz:e Zyyy:6 Zzzz:4a Zyyy:rc Zzzz:4 Zyyy:h Zzzz:3",
   "Zyyy:d Zzzz:3 Zyyy:3b Zzzz:4 Zyyy:2n Zzzz:6 Zyyy:c Zzzz:4 Zyyy Zzzz:f Zyyy:c Zzzz:4",
   "Zyyy:1k Zzzz:8 Zyyy:a Zzzz:6 Zyyy:14 Zzzz:8 Zyyy:u Zzzz:2 Zyyy:c Zzzz:4 Zyyy:2 Zzzz:1q",
   "Zyyy:9g Zzzz:c Zyyy:e Zzzz:2 Zyyy:d Zzzz:3 Zyyy:a Zzzz:5 Zyyy:1k Zzzz:7 Zyyy:f Zzzz:2",
   "Zyyy:b Zzzz:6 Zyyy:9 Zzzz:7 Zyyy:43 Zzzz Zyyy:2u Zzzz:sm Hani:wyo Zzzz:w Hani:37e",
   "Zzzz:6 Hani:66 Zzzz:2 Hani:4g2 Zzzz:e Hani:5rl Zzzz:f Hani:ha Zzzz:1wi Hani:f2",
   "Zzzz:15u Hani:3t7 Zzzz:5 Hani:38g Zzzz:f975 Zyyy Zzzz:u Zyyy:2o Zzzz:3k Zinh:6o",
   "Zzzz:47bk"]

/-- The script extensions of the code points from zero on, as slices: the codes in a row, or a
hyphen where the script counts. -/
def scriptExtensionSlices : List String :=
  ["-:53 AvstCariCoptDuplElbaGeorGlagGongGothGrekHaniLatnLydiMahjPermShaw -:ec",
   "BengCyrlDevaLatnLisuThaiToto -:a BopoLatn - BopoLatn:3 - LatnLisu -:9 LatnThai -",
   "BopoLatn -:12 CherCoptCyrlGrekLatnPermSunuTale CherCyrlGrekLatnOsgeSunuTaleTodr",
   "CherCyrlLatnTfng GlagLatnSunuSyrcThai AghbCherCoptCyrlGothGrekLatnOsgeSyrcTfngTodr",
   "CoptElbaGlagGothKanaLatn CyrlGrekLatnPermTfng CoptDuplHebrLatnPermSyrcTaleTfngTodr",
   "ArmnCyrlDuplGothGrekHebrLatnPermSyrcTaleTfng LatnTfng DuplLatnSyrc CherCyrlLatnOsge",
   "CherLatnTale LatnSunu EthiLatn - LatnSunu CyrlLatnTodr - GrekLatnPermTodr -:f",
   "CherDuplKanaLatnSyrcTfng CherDuplLatnSyrc LatnSyrc -:7 LatnSunuSyrc LatnSyrc -",
   "CherLatnSyrc AghbCherGothLatnSunuSyrcThai -:g Grek -:2 Grek -:i LatnOsge -:5",
   "AghbLatnTodr -:4 Latn:d -:4 CoptGrek:2 -:7h CyrlPerm CyrlGlag CyrlLatn:2 CyrlGlag -:75",
   "ArmnGeorGlag -:3m ArabGaraNkooRohgSyrcThaaYezi -:e ArabGaraNkooRohgSyrcThaaYezi",
   "ArabSyrcThaa -:2 AdlmArabGaraNkooRohgSyrcThaaYezi -:w",
   "AdlmArabMandManiOugrPhlpRohgSogdSyrc -:a ArabSyrc:b -:a ArabThaaYezi:a -:6 ArabSyrc",
   "-:2r ArabRohg -:ho BengDevaGranGujrGuruKndaLatnMlymNandNewaOryaShrdTamlTeluTirh",
   "BengDevaGranGujrGuruKndaLatnMlymNewaOryaTamlTeluTirh -:h",
   "BengDevaDogrGongGonmGranGujrGuruKndaMahjMlymNandOnaoOryaSindSinhSyloTakrTamlTeluTirh",
   "BengDevaDogrGongGonmGranGujrGukhGuruKndaLimbMahjMlymNandOnaoOryaSindSinhSyloTakrTamlTeluTirh",
   "DevaDogrKthiMahj:a -:3a BengCakmSylo:a -:3a GuruMult:a -:3a GujrKhoj:a -:6u GranTaml:e",
   "-:6q KndaNandTutg:a -:nk CakmMymrTale:a -:4x GeorGlagLatn -:167 Runr:3 -:1z",
   "BuhdHanoTagbTglg:2 -:5n MongPhag:2 - MongPhag -:y2 BengDevaGranKnda Deva",
   "BengDevaGranKnda DevaGranKnda Deva BengDevaNewaTeluTirh BengDevaTelu DevaNewaShrd",
   "BengDevaNewaTelu DevaShrd DevaKndaMlymOryaTamlTelu Deva DevaShrd:2 Deva:2 DevaShrd",
   "BengDeva DevaNewaTirh Deva:6 DevaNandNewa BengDevaShrd DevaNewa Deva BengDevaNewaShrd",
   "Deva:4 BengDevaGranKndaMlymNandOryaSinhTeluTirhTutg DevaGran DevaGranKndaTutg",
   "BengDeva:2 Beng DevaGran:2 Nand -:5h Grek:2 -:1i CyrlLatnSyrc - Syrc -:fo LatnMongPhag",
   "-:v AdlmArab -:a CariGeorGlagHungLyciOrkh -:2 CariGrekHungMero -:42 DevaGranLatn -:2li",
   "CoptLatn -:o AvstOrkh AvstCariGeorHungKthiLydiSamr -:a Dupl -:4 AdlmArabHung -",
   "CyrlGlag -:bw HaniTang:g - BopoHangHaniHiraKanaMongYiii",
   "BopoHangHaniHiraKanaMongPhagYiii BopoHangHaniHiraKana -:2 Hani -",
   "BopoHangHaniHiraKanaMongTibtYiii:2 BopoHangHaniHiraKanaLisuMongTibtYiii:2",
   "BopoHangHaniHiraKanaYiii:6 - BopoHangHaniHiraKana BopoHangHaniHiraKanaYiii:8",
   "BopoHangHaniHiraKana:4 -:a BopoHani:4 -:2 BopoHangHaniHiraKana HiraKana:5 -",
   "BopoHangHaniHiraKana -:4 HaniHiraKana:2 Hani:2 -:2h HiraKana:4 -:3 HiraKana -:2i",
   "BopoHangHaniHiraKanaYiii HiraKana -:43 Hani:g -:w Hani:12 -:9 HaniTang -:1c Hani:14",
   "-:1k Hani:1d -:f Hani:c -:1f Hani -:2g Hani:p -:a Hani:5 -:2o Hani:v -:mls CyrlGlag",
   "-:40 HaniLatn:8 -:88",
   "DevaDogrGujrGuruKhojKndaKthiMahjMlymModiNandShrdSindTakrTirhTutg:3",
   "DevaDogrGujrGuruKhojKndaKthiMahjModiNandShrdSindTakrTirhTutg:3",
   "DevaDogrGujrGuruKhojKthiMahjModiSindTakrTirh:2",
   "DevaDogrGujrGuruKhojKthiMahjModiShrdSindTakrTirh",
   "DevaDogrGujrGuruKhojKthiMahjModiSindTakrTirh -:53 BengDevaTutg - DevaTaml -:1m",
   "KaliLatnMymr -:4g BugiJava -:gha ArabNkoo:2 -:4y ArabThaa -:a ArabThaa -:1z",
   "BopoHangHaniHiraKana:2 -:7u BopoHangHaniHiraKanaYiii:5 -:a HiraKana -:19 HiraKana:2",
   "-:9s CpmnCprtLinb:2 CprtLinb -:4 CprtLinaLinb:19 -:3 CprtLinb:9 -:bk ArabCopt:s -:1km",
   "ManiOugr -:1la GranTaml - GranTaml -:1j GranTaml:2 -:2hf GranTaml:2 - GranTaml -:uz0",
   "Dupl:4 -:4ho Hani:i -:63i Hani:2 -:l57y"]

/-- The characters of a script. -/
def ofScript (code : String) : CodePoints := .ofSlices [code] scriptSlices

/-- The characters that are used with a script. -/
def ofScriptExtension (code : String) : CodePoints :=
  let extended := slices scriptExtensionSlices
  let listed := CodePoints.ofIntervals
    ((extended.filter (Text.contains code ·.value)).map fun s => (s.low, s.high))
  let unlisted := CodePoints.ofIntervals
    ((extended.filter (·.value == "-")).map fun s => (s.low, s.high))
  listed.union ((ofScript code).inter unlisted)

/-- The codes of the scripts and their names. -/
def scriptNames : List (String × List String) :=
  [("Adlm", ["adlm", "adlam"]), ("Aghb", ["aghb", "caucasianalbanian"]), ("Ahom", ["ahom"]),
    ("Arab", ["arab", "arabic"]), ("Armi", ["armi", "imperialaramaic"]),
    ("Armn", ["armn", "armenian"]), ("Avst", ["avst", "avestan"]), ("Bali", ["bali", "balinese"]),
    ("Bamu", ["bamu", "bamum"]), ("Bass", ["bass", "bassavah"]), ("Batk", ["batk", "batak"]),
    ("Beng", ["beng", "bengali"]), ("Bhks", ["bhks", "bhaiksuki"]), ("Bopo", ["bopo", "bopomofo"]),
    ("Brah", ["brah", "brahmi"]), ("Brai", ["brai", "braille"]), ("Bugi", ["bugi", "buginese"]),
    ("Buhd", ["buhd", "buhid"]), ("Cakm", ["cakm", "chakma"]),
    ("Cans", ["cans", "canadianaboriginal"]), ("Cari", ["cari", "carian"]), ("Cham", ["cham"]),
    ("Cher", ["cher", "cherokee"]), ("Chrs", ["chrs", "chorasmian"]),
    ("Copt", ["copt", "coptic", "qaac"]), ("Cpmn", ["cpmn", "cyprominoan"]),
    ("Cprt", ["cprt", "cypriot"]), ("Cyrl", ["cyrl", "cyrillic"]),
    ("Deva", ["deva", "devanagari"]), ("Diak", ["diak", "divesakuru"]),
    ("Dogr", ["dogr", "dogra"]), ("Dsrt", ["dsrt", "deseret"]), ("Dupl", ["dupl", "duployan"]),
    ("Egyp", ["egyp", "egyptianhieroglyphs"]), ("Elba", ["elba", "elbasan"]),
    ("Elym", ["elym", "elymaic"]), ("Ethi", ["ethi", "ethiopic"]), ("Gara", ["gara", "garay"]),
    ("Geor", ["geor", "georgian"]), ("Glag", ["glag", "glagolitic"]),
    ("Gong", ["gong", "gunjalagondi"]), ("Gonm", ["gonm", "masaramgondi"]),
    ("Goth", ["goth", "gothic"]), ("Gran", ["gran", "grantha"]), ("Grek", ["grek", "greek"]),
    ("Gujr", ["gujr", "gujarati"]), ("Gukh", ["gukh", "gurungkhema"]),
    ("Guru", ["guru", "gurmukhi"]), ("Hang", ["hang", "hangul"]), ("Hani", ["hani", "han"]),
    ("Hano", ["hano", "hanunoo"]), ("Hatr", ["hatr", "hatran"]), ("Hebr", ["hebr", "hebrew"]),
    ("Hira", ["hira", "hiragana"]), ("Hluw", ["hluw", "anatolianhieroglyphs"]),
    ("Hmng", ["hmng", "pahawhhmong"]), ("Hmnp", ["hmnp", "nyiakengpuachuehmong"]),
    ("Hung", ["hung", "oldhungarian"]), ("Ital", ["ital", "olditalic"]),
    ("Java", ["java", "javanese"]), ("Kali", ["kali", "kayahli"]), ("Kana", ["kana", "katakana"]),
    ("Kawi", ["kawi"]), ("Khar", ["khar", "kharoshthi"]), ("Khmr", ["khmr", "khmer"]),
    ("Khoj", ["khoj", "khojki"]), ("Kits", ["kits", "khitansmallscript"]),
    ("Knda", ["knda", "kannada"]), ("Krai", ["krai", "kiratrai"]), ("Kthi", ["kthi", "kaithi"]),
    ("Lana", ["lana", "taitham"]), ("Laoo", ["laoo", "lao"]), ("Latn", ["latn", "latin"]),
    ("Lepc", ["lepc", "lepcha"]), ("Limb", ["limb", "limbu"]), ("Lina", ["lina", "lineara"]),
    ("Linb", ["linb", "linearb"]), ("Lisu", ["lisu"]), ("Lyci", ["lyci", "lycian"]),
    ("Lydi", ["lydi", "lydian"]), ("Mahj", ["mahj", "mahajani"]), ("Maka", ["maka", "makasar"]),
    ("Mand", ["mand", "mandaic"]), ("Mani", ["mani", "manichaean"]), ("Marc", ["marc", "marchen"]),
    ("Medf", ["medf", "medefaidrin"]), ("Mend", ["mend", "mendekikakui"]),
    ("Merc", ["merc", "meroiticcursive"]), ("Mero", ["mero", "meroitichieroglyphs"]),
    ("Mlym", ["mlym", "malayalam"]), ("Modi", ["modi"]), ("Mong", ["mong", "mongolian"]),
    ("Mroo", ["mroo", "mro"]), ("Mtei", ["mtei", "meeteimayek"]), ("Mult", ["mult", "multani"]),
    ("Mymr", ["mymr", "myanmar"]), ("Nagm", ["nagm", "nagmundari"]),
    ("Nand", ["nand", "nandinagari"]), ("Narb", ["narb", "oldnortharabian"]),
    ("Nbat", ["nbat", "nabataean"]), ("Newa", ["newa"]), ("Nkoo", ["nkoo", "nko"]),
    ("Nshu", ["nshu", "nushu"]), ("Ogam", ["ogam", "ogham"]), ("Olck", ["olck", "olchiki"]),
    ("Onao", ["onao", "olonal"]), ("Orkh", ["orkh", "oldturkic"]), ("Orya", ["orya", "oriya"]),
    ("Osge", ["osge", "osage"]), ("Osma", ["osma", "osmanya"]), ("Ougr", ["ougr", "olduyghur"]),
    ("Palm", ["palm", "palmyrene"]), ("Pauc", ["pauc", "paucinhau"]),
    ("Perm", ["perm", "oldpermic"]), ("Phag", ["phag", "phagspa"]),
    ("Phli", ["phli", "inscriptionalpahlavi"]), ("Phlp", ["phlp", "psalterpahlavi"]),
    ("Phnx", ["phnx", "phoenician"]), ("Plrd", ["plrd", "miao"]),
    ("Prti", ["prti", "inscriptionalparthian"]), ("Rjng", ["rjng", "rejang"]),
    ("Rohg", ["rohg", "hanifirohingya"]), ("Runr", ["runr", "runic"]),
    ("Samr", ["samr", "samaritan"]), ("Sarb", ["sarb", "oldsoutharabian"]),
    ("Saur", ["saur", "saurashtra"]), ("Sgnw", ["sgnw", "signwriting"]),
    ("Shaw", ["shaw", "shavian"]), ("Shrd", ["shrd", "sharada"]), ("Sidd", ["sidd", "siddham"]),
    ("Sind", ["sind", "khudawadi"]), ("Sinh", ["sinh", "sinhala"]), ("Sogd", ["sogd", "sogdian"]),
    ("Sogo", ["sogo", "oldsogdian"]), ("Sora", ["sora", "sorasompeng"]),
    ("Soyo", ["soyo", "soyombo"]), ("Sund", ["sund", "sundanese"]), ("Sunu", ["sunu", "sunuwar"]),
    ("Sylo", ["sylo", "sylotinagri"]), ("Syrc", ["syrc", "syriac"]),
    ("Tagb", ["tagb", "tagbanwa"]), ("Takr", ["takr", "takri"]), ("Tale", ["tale", "taile"]),
    ("Talu", ["talu", "newtailue"]), ("Taml", ["taml", "tamil"]), ("Tang", ["tang", "tangut"]),
    ("Tavt", ["tavt", "taiviet"]), ("Telu", ["telu", "telugu"]), ("Tfng", ["tfng", "tifinagh"]),
    ("Tglg", ["tglg", "tagalog"]), ("Thaa", ["thaa", "thaana"]), ("Thai", ["thai"]),
    ("Tibt", ["tibt", "tibetan"]), ("Tirh", ["tirh", "tirhuta"]), ("Tnsa", ["tnsa", "tangsa"]),
    ("Todr", ["todr", "todhri"]), ("Toto", ["toto"]), ("Tutg", ["tutg", "tulutigalari"]),
    ("Ugar", ["ugar", "ugaritic"]), ("Vaii", ["vaii", "vai"]), ("Vith", ["vith", "vithkuqi"]),
    ("Wara", ["wara", "warangciti"]), ("Wcho", ["wcho", "wancho"]),
    ("Xpeo", ["xpeo", "oldpersian"]), ("Xsux", ["xsux", "cuneiform"]),
    ("Yezi", ["yezi", "yezidi"]), ("Yiii", ["yiii", "yi"]), ("Zanb", ["zanb", "zanabazarsquare"]),
    ("Zinh", ["zinh", "inherited", "qaai"]), ("Zyyy", ["zyyy", "common"])]

/-- The code of a script from its name in lower case without blanks, hyphens and underscores. -/
def script? (name : String) : Option String :=
  (scriptNames.find? fun (_, names) => names.contains name).map (·.1)

end Pattern

end TableMapper
