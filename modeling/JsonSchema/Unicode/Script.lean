import JsonSchema.Unicode.Ranges

/-!
# `JsonSchema.Unicode.Script` — scripts of code points

## Contents
- **Table.** `Script.table`: for each script its names, in small letters without marks, the code
  points of the script, and those whose script extensions name it where these differ.
-/

namespace JsonSchema.Unicode.Script

/-- One script. -/
structure Entry where
  names : List String
  ranges : Ranges
  extensions : Option Ranges

/-- All scripts. -/
def table : List Entry :=
  [⟨["adlm", "adlam"],
    Ranges.ofText
      "125184 76 4 10 4 2",
    some (Ranges.ofText
      "1567 1 32 1 123583 76 4 10 4 2")⟩,
   ⟨["ahom"],
    Ranges.ofText
      "71424 27 2 15 4 23",
    none⟩,
   ⟨["hluw", "anatolianhieroglyphs"],
    Ranges.ofText
      "82944 583",
    none⟩,
   ⟨["arab", "arabic"],
    Ranges.ofText
      "1536 5 1 6 1 14 1 3 1 32 1 10 11 26 1 108 1 34 80 48 240 31 1 2 6 74 1 29 62032 115 16 363
      2 80 2 54 7 1 32 16 112 5 1 135 3939 31 126 3 57088 4 1 27 1 2 1 1 2 1 1 10 1 4 1 1 1 1 6 1
      4 1 1 1 1 1 1 3 1 2 1 1 2 1 1 1 1 1 1 1 1 1 1 2 1 1 2 4 1 7 1 4 1 4 1 1 1 10 1 17 5 3 1 5 1
      17 52 2",
    some (Ranges.ofText
      "1536 5 1 215 1 34 80 48 240 31 1 2 6 74 1 29 62032 115 16 445 2 54 7 1 32 16 112 5 1 135
      995 28 2916 31 126 3 57088 4 1 27 1 2 1 1 2 1 1 10 1 4 1 1 1 1 6 1 4 1 1 1 1 1 1 3 1 2 1 1
      2 1 1 1 1 1 1 1 1 1 1 2 1 1 2 4 1 7 1 4 1 4 1 1 1 10 1 17 5 3 1 5 1 17 52 2")⟩,
   ⟨["armn", "armenian"],
    Ranges.ofText
      "1329 38 2 50 2 3 62851 5",
    none⟩,
   ⟨["avst", "avestan"],
    Ranges.ofText
      "68352 54 3 7",
    none⟩,
   ⟨["bali", "balinese"],
    Ranges.ofText
      "6912 77 3 47",
    none⟩,
   ⟨["bamu", "bamum"],
    Ranges.ofText
      "42656 88 49416 569",
    none⟩,
   ⟨["bass", "bassavah"],
    Ranges.ofText
      "92880 30 2 6",
    none⟩,
   ⟨["batk", "batak"],
    Ranges.ofText
      "7104 52 8 4",
    none⟩,
   ⟨["beng", "bengali"],
    Ranges.ofText
      "2432 4 1 8 2 2 2 22 1 7 1 1 3 4 2 9 2 2 2 4 8 1 4 2 1 5 2 25",
    some (Ranges.ofText
      "2385 2 17 2 26 4 1 8 2 2 2 22 1 7 1 1 3 4 2 9 2 2 2 4 8 1 4 2 1 5 2 25 4817 1 1 1 2 2 1 1 8
      1 8 1 2 1 4 1 2 3 35833 1")⟩,
   ⟨["bhks", "bhaiksuki"],
    Ranges.ofText
      "72704 9 1 45 1 14 10 29",
    none⟩,
   ⟨["bopo", "bopomofo"],
    Ranges.ofText
      "746 2 11801 43 112 32",
    some (Ranges.ofText
      "746 2 11541 3 4 10 1 13 10 4 2 1 6 1 195 1 9 43 112 32 52357 2 282 5")⟩,
   ⟨["brah", "brahmi"],
    Ranges.ofText
      "69632 78 4 36 9 1",
    none⟩,
   ⟨["brai", "braille"],
    Ranges.ofText
      "10240 256",
    none⟩,
   ⟨["bugi", "buginese"],
    Ranges.ofText
      "6656 28 2 2",
    some (Ranges.ofText
      "6656 28 2 2 36783 1")⟩,
   ⟨["buhd", "buhid"],
    Ranges.ofText
      "5952 20",
    some (Ranges.ofText
      "5941 2 9 20")⟩,
   ⟨["cans", "canadianaboriginal"],
    Ranges.ofText
      "5120 640 560 70 65978 16",
    none⟩,
   ⟨["cari", "carian"],
    Ranges.ofText
      "66208 49",
    none⟩,
   ⟨["aghb", "caucasianalbanian"],
    Ranges.ofText
      "66864 52 11 1",
    none⟩,
   ⟨["cakm", "chakma"],
    Ranges.ofText
      "69888 53 1 18",
    some (Ranges.ofText
      "2534 10 1616 10 65718 53 1 18")⟩,
   ⟨["cham"],
    Ranges.ofText
      "43520 55 9 14 2 10 2 4",
    none⟩,
   ⟨["cher", "cherokee"],
    Ranges.ofText
      "5024 86 2 6 38770 80",
    none⟩,
   ⟨["chrs", "chorasmian"],
    Ranges.ofText
      "69552 28",
    none⟩,
   ⟨["zyyy", "common"],
    Ranges.ofText
      "0 65 26 6 26 47 1 15 1 5 23 1 31 1 449 39 5 5 2 20 116 1 9 1 6 1 1 1 637 1 6 1 14 1 3 1 32
      1 156 1 516 1 129 2 1241 1 405 4 290 1 1519 3 71 2 203 2 1 1 1229 1 13 1 7 4 1 6 1 3 2 1
      773 12 2 87 1 11 3 11 1 15 17 33 63 38 1 3 2 6 1 27 1 17 41 3 4 663 25 11 21 928 256 628 2
      32 1 105 512 94 402 12 4 5 1 1 1 25 15 8 4 4 91 2 3 1 90 2 147 16 32 36 60 64 31 81 47 1 88
      168 6592 64 22784 34 102 3 165 10 244 1 160 1 395 1 14 2 20946 2 208 10 22 35 1 19 1 4 147
      1 1 32 26 6 26 11 10 1 45 2 64 7 1 7 10 5 258 3 4 45 3 9 80 13 51 45 228 27 47524 4 4780
      116 60 246 10 39 2 62 3 17 8 2 7 30 4 61 213 20 12 20 12 87 9 25 135 85 1 71 1 2 2 1 2 2 2
      4 1 12 1 1 1 7 1 65 1 4 2 8 1 7 1 28 1 4 1 5 1 1 3 7 1 340 2 292 2 50 5233 68 76 61 706 44
      4 100 12 15 2 15 1 15 1 37 10 174 56 26 1 2 13 44 4 9 7 2 14 6 154 984 4 17 3 13 3 119 4 95
      6 12 4 1 15 12 4 56 8 10 6 40 8 30 2 2 78 340 12 14 2 13 3 9 7 46 1 7 8 14 4 9 7 9 7 147 1
      55 37 10 787463 1 30 96",
    some (Ranges.ofText
      "0 65 26 6 26 47 1 15 1 5 23 1 31 1 449 39 5 5 2 20 116 1 9 1 6 1 1 1 637 1 215 1 516 1 1372
      1 405 4 1810 3 2322 12 2 33 1 53 1 11 3 11 1 15 17 33 63 38 1 3 2 6 1 27 1 17 41 3 4 663 25
      11 21 928 256 628 2 32 1 105 512 67 1 26 402 12 4 1 3 1 13 1 13 1 21 1 529 24 31 1 49 15 12
      4 161 10 5 96 31 1 6592 64 22792 26 102 3 976 1 14 2 21156 10 22 21 2 12 1 19 1 4 147 1 1
      32 26 6 26 6 127 7 1 7 10 5 402 13 51 45 52563 116 60 246 10 39 2 62 3 17 8 2 7 30 4 61 213
      20 12 20 12 87 27 7 135 85 1 71 1 2 2 1 2 2 2 4 1 12 1 1 1 7 1 65 1 4 2 8 1 7 1 28 1 4 1 5
      1 1 3 7 1 340 2 292 2 50 5233 68 76 61 706 44 4 100 12 15 2 15 1 15 1 37 10 174 56 26 1 2
      13 44 4 9 23 6 154 984 4 17 3 13 3 119 4 95 6 12 4 1 15 12 4 56 8 10 6 40 8 30 2 2 78 340
      12 14 2 13 3 9 7 46 1 7 8 14 4 9 7 9 7 147 1 55 37 10 787463 1 30 96")⟩,
   ⟨["copt", "coptic", "qaac"],
    Ranges.ofText
      "994 14 10384 116 5 7",
    some (Ranges.ofText
      "994 14 10384 116 5 7 54752 28")⟩,
   ⟨["xsux", "cuneiform"],
    Ranges.ofText
      "73728 922 102 111 1 5 11 196",
    none⟩,
   ⟨["cprt", "cypriot"],
    Ranges.ofText
      "67584 6 2 1 1 44 1 2 3 1 2 1",
    some (Ranges.ofText
      "65792 3 4 45 3 9 1728 6 2 1 1 44 1 2 3 1 2 1")⟩,
   ⟨["cpmn", "cyprominoan"],
    Ranges.ofText
      "77712 99",
    some (Ranges.ofText
      "65792 2 11918 99")⟩,
   ⟨["cyrl", "cyrillic"],
    Ranges.ofText
      "1024 133 2 169 5968 9 162 1 76 1 4199 32 30784 96 22414 2 57856 62 33 1",
    some (Ranges.ofText
      "1024 304 5968 9 162 1 76 1 127 1 4071 32 67 1 30716 96 22414 2 57856 62 33 1")⟩,
   ⟨["dsrt", "deseret"],
    Ranges.ofText
      "66560 80",
    none⟩,
   ⟨["deva", "devanagari"],
    Ranges.ofText
      "2304 81 4 15 2 26 40800 32 29184 10",
    some (Ranges.ofText
      "2304 83 2 43 4944 39 1 2 1014 1 34623 10 166 32 29184 10")⟩,
   ⟨["diak", "divesakuru"],
    Ranges.ofText
      "71936 7 2 1 2 8 1 2 1 30 1 2 2 12 9 10",
    none⟩,
   ⟨["dogr", "dogra"],
    Ranges.ofText
      "71680 60",
    some (Ranges.ofText
      "2404 12 40640 10 28614 60")⟩,
   ⟨["dupl", "duployan"],
    Ranges.ofText
      "113664 107 5 13 3 9 7 10 2 4",
    some (Ranges.ofText
      "113664 107 5 13 3 9 7 10 2 8")⟩,
   ⟨["egyp", "egyptianhieroglyphs"],
    Ranges.ofText
      "77824 1110",
    none⟩,
   ⟨["elba", "elbasan"],
    Ranges.ofText
      "66816 40",
    none⟩,
   ⟨["elym", "elymaic"],
    Ranges.ofText
      "69600 23",
    none⟩,
   ⟨["ethi", "ethiopic"],
    Ranges.ofText
      "4608 73 1 4 2 7 1 1 1 4 2 41 1 4 2 33 1 4 2 7 1 1 1 4 2 15 1 57 1 4 2 67 2 32 3 26 6630 23
      9 7 1 7 1 7 1 7 1 7 1 7 1 7 1 7 32034 6 2 6 2 6 9 7 1 7 81073 7 1 4 1 2 1 15",
    none⟩,
   ⟨["geor", "georgian"],
    Ranges.ofText
      "4256 38 1 1 5 1 2 43 1 4 2960 43 2 3 4160 38 1 1 5 1",
    some (Ranges.ofText
      "4256 38 1 1 5 1 2 48 2960 43 2 3 4160 38 1 1 5 1")⟩,
   ⟨["glag", "glagolitic"],
    Ranges.ofText
      "11264 96 111520 7 1 17 2 7 1 2 1 5",
    some (Ranges.ofText
      "1156 1 2 1 10104 96 483 1 30763 1 80272 7 1 17 2 7 1 2 1 5")⟩,
   ⟨["goth", "gothic"],
    Ranges.ofText
      "66352 27",
    none⟩,
   ⟨["gran", "grantha"],
    Ranges.ofText
      "70400 4 1 8 2 2 2 22 1 7 1 2 1 5 2 9 2 2 2 3 2 1 6 1 5 7 2 7 3 5",
    some (Ranges.ofText
      "2385 2 17 2 640 14 4316 1 1 2 30 3 3 2 1014 1 61967 4 1 8 2 2 2 22 1 7 1 2 1 5 1 10 2 2 2 3
      2 1 6 1 5 7 2 7 3 5 3163 2 1 1")⟩,
   ⟨["grek", "greek"],
    Ranges.ofText
      "880 4 1 3 2 4 1 1 4 1 1 1 1 3 1 1 1 20 1 63 14 16 6438 5 50 5 4 5 84 1 320 22 2 6 2 38 2 6
      2 8 1 1 1 1 1 1 1 31 2 53 1 15 1 14 2 6 1 19 2 3 1 9 295 1 35390 1 21978 79 17 1 53343 70",
    some (Ranges.ofText
      "834 1 2 1 42 4 1 3 2 4 1 1 4 1 1 1 1 3 1 1 1 20 1 63 14 16 6438 5 50 5 4 5 84 3 318 22 2 6
      2 38 2 6 2 8 1 1 1 1 1 1 1 31 2 53 1 15 1 14 2 6 1 19 2 3 1 9 295 1 35390 1 21978 79 17 1
      53343 70")⟩,
   ⟨["gujr", "gujarati"],
    Ranges.ofText
      "2689 3 1 9 1 3 1 22 1 7 1 2 1 5 2 10 1 3 1 3 2 1 15 4 2 12 7 7",
    some (Ranges.ofText
      "2385 2 17 2 283 3 1 9 1 3 1 22 1 7 1 2 1 5 2 10 1 3 1 3 2 1 15 4 2 12 7 7 40240 10")⟩,
   ⟨["gong", "gunjalagondi"],
    Ranges.ofText
      "73056 6 1 2 1 37 1 2 1 6 7 10",
    some (Ranges.ofText
      "2404 2 70650 6 1 2 1 37 1 2 1 6 7 10")⟩,
   ⟨["guru", "gurmukhi"],
    Ranges.ofText
      "2561 3 1 6 4 2 2 22 1 7 1 2 1 2 1 2 2 1 1 5 4 2 2 3 3 1 7 4 1 1 7 17",
    some (Ranges.ofText
      "2385 2 17 2 155 3 1 6 4 2 2 22 1 7 1 2 1 2 1 2 2 1 1 5 4 2 2 3 3 1 7 4 1 1 7 17 40377 10")⟩,
   ⟨["hani", "han"],
    Ranges.ofText
      "11904 26 1 89 12 214 47 1 1 1 25 9 14 4 964 6592 64 20992 22784 366 2 106 29960 2 12 2
      36878 42720 32 4154 6 222 2 5762 14 7473 3103 542 1506 4939 5 4192",
    some (Ranges.ofText
      "11904 26 1 89 12 214 43 3 1 13 1 13 1 13 2 1 6 9 187 1 148 16 32 36 60 40 56 49 15 12 51 1
      88 25 10 5 96 31 1 6592 64 20992 1792 8 20984 366 2 106 875 2 282 5 28796 2 12 2 25454 18
      7902 2 3502 42720 32 4154 6 222 2 5762 14 7473 3103 542 1506 4939 5 4192")⟩,
   ⟨["hang", "hangul"],
    Ranges.ofText
      "4352 256 7726 2 257 94 113 31 65 31 30433 29 643 11172 12 23 4 49 10148 31 3 6 2 6 2 6 2 3",
    some (Ranges.ofText
      "4352 256 7681 3 4 10 1 13 14 3 6 1 195 1 53 94 113 31 65 31 30433 29 643 11172 12 23 4 49
      9801 2 282 5 58 31 3 6 2 6 2 6 2 3")⟩,
   ⟨["rohg", "hanifirohingya"],
    Ranges.ofText
      "68864 40 8 10",
    some (Ranges.ofText
      "1548 1 14 1 3 1 32 1 147 1 67115 40 8 10")⟩,
   ⟨["hano", "hanunoo"],
    Ranges.ofText
      "5920 21",
    some (Ranges.ofText
      "5920 23")⟩,
   ⟨["hatr", "hatran"],
    Ranges.ofText
      "67808 19 1 2 5 5",
    none⟩,
   ⟨["hebr", "hebrew"],
    Ranges.ofText
      "1425 55 8 27 4 6 62760 26 1 5 1 1 1 2 1 2 1 10",
    none⟩,
   ⟨["hira", "hiragana"],
    Ranges.ofText
      "12353 86 6 3 98145 287 18 1 29 3 16557 1",
    some (Ranges.ofText
      "12289 3 4 10 1 13 16 6 1 1 4 2 3 86 2 8 90 2 52552 2 282 5 10 1 45 2 45153 287 18 1 29 3
      16557 1")⟩,
   ⟨["armi", "imperialaramaic"],
    Ranges.ofText
      "67648 22 1 9",
    none⟩,
   ⟨["zinh", "inherited", "qaai"],
    Ranges.ofText
      "768 112 277 2 452 11 26 1 736 4 4443 31 513 3 1 13 1 7 4 1 6 1 3 2 198 64 524 2 194 33 3897
      4 107 2 52581 16 16 14 975 1 226 1 4186 1 48068 46 2 23 544 3 17 8 2 7 30 4 798546 240",
    some (Ranges.ofText
      "768 66 1 2 1 29 1520 2 4443 31 755 54 1 1 1 5 524 2 194 32 56592 16 16 14 975 1 52482 46 2
      23 544 3 17 8 2 7 30 4 798546 240")⟩,
   ⟨["phli", "inscriptionalpahlavi"],
    Ranges.ofText
      "68448 19 5 8",
    none⟩,
   ⟨["prti", "inscriptionalparthian"],
    Ranges.ofText
      "68416 22 2 8",
    none⟩,
   ⟨["java", "javanese"],
    Ranges.ofText
      "43392 78 2 10 4 2",
    some (Ranges.ofText
      "43392 78 1 11 4 2")⟩,
   ⟨["kthi", "kaithi"],
    Ranges.ofText
      "69760 67 10 1",
    some (Ranges.ofText
      "2406 10 40640 10 26694 67 10 1")⟩,
   ⟨["knda", "kannada"],
    Ranges.ofText
      "3200 13 1 3 1 23 1 10 1 5 2 9 1 3 1 4 7 2 6 2 1 4 2 10 1 3",
    some (Ranges.ofText
      "2385 2 17 2 794 13 1 3 1 23 1 10 1 5 2 9 1 3 1 4 7 2 6 2 1 4 2 10 1 3 4060 1 1 1 7 1 23 1 1
      1 35643 6")⟩,
   ⟨["kana", "katakana"],
    Ranges.ofText
      "12449 90 2 3 240 16 208 47 1 88 52238 10 1 45 45138 4 1 7 1 2 1 1 287 3 50 1 14 4",
    some (Ranges.ofText
      "12289 3 4 10 1 13 16 6 1 1 4 2 91 4 3 96 240 16 208 47 1 88 51949 2 282 63 45136 4 1 7 1 2
      1 1 287 3 50 1 14 4")⟩,
   ⟨["kawi"],
    Ranges.ofText
      "73472 17 1 41 3 28",
    none⟩,
   ⟨["kali", "kayahli"],
    Ranges.ofText
      "43264 46 1 1",
    some (Ranges.ofText
      "43264 48")⟩,
   ⟨["khar", "kharoshthi"],
    Ranges.ofText
      "68096 4 1 2 5 8 1 3 1 29 2 3 4 10 7 9",
    none⟩,
   ⟨["kits", "khitansmallscript"],
    Ranges.ofText
      "94180 1 6939 470",
    none⟩,
   ⟨["khmr", "khmer"],
    Ranges.ofText
      "6016 94 2 10 6 10 486 32",
    none⟩,
   ⟨["khoj", "khojki"],
    Ranges.ofText
      "70144 18 1 47",
    some (Ranges.ofText
      "2790 10 40256 10 27078 18 1 47")⟩,
   ⟨["sind", "khudawadi"],
    Ranges.ofText
      "70320 59 5 10",
    some (Ranges.ofText
      "2404 2 40650 10 27254 59 5 10")⟩,
   ⟨["laoo", "lao"],
    Ranges.ofText
      "3713 2 1 1 1 5 1 24 1 1 1 23 2 5 1 1 1 7 1 10 2 4",
    none⟩,
   ⟨["latn", "latin"],
    Ranges.ofText
      "65 26 6 26 47 1 15 1 5 23 1 31 1 449 39 5 6683 38 6 49 5 4 5 13 1 70 65 256 369 1 13 1 16
      13 141 2 6 1 27 1 17 41 2775 32 31394 102 3 64 5 2 1 1 1 5 24 14 816 43 1 9 1 4 20374 7
      1050 26 6 26 2085 6 1 42 1 9 55109 31 6 6",
    some (Ranges.ofText
      "65 26 6 26 47 1 15 1 5 23 1 31 1 449 39 5 126 13 277 2 1226 2 1960 1 3076 38 6 49 5 4 5 13
      1 70 65 256 303 1 65 1 13 1 16 13 83 1 57 2 6 1 27 1 17 41 2775 32 31360 8 26 102 3 64 5 2
      1 1 1 5 24 14 302 1 513 43 1 9 1 4 20374 7 1050 26 6 26 2085 6 1 42 1 9 55109 31 6 6")⟩,
   ⟨["lepc", "lepcha"],
    Ranges.ofText
      "7168 56 3 15 3 3",
    none⟩,
   ⟨["limb", "limbu"],
    Ranges.ofText
      "6400 31 1 12 4 12 4 1 3 12",
    some (Ranges.ofText
      "2405 1 3994 31 1 12 4 12 4 1 3 12")⟩,
   ⟨["lina", "lineara"],
    Ranges.ofText
      "67072 311 9 22 10 8",
    some (Ranges.ofText
      "65799 45 1228 311 9 22 10 8")⟩,
   ⟨["linb", "linearb"],
    Ranges.ofText
      "65536 12 1 26 1 19 1 2 1 15 2 14 34 123",
    some (Ranges.ofText
      "65536 12 1 26 1 19 1 2 1 15 2 14 34 123 5 3 4 45 3 9")⟩,
   ⟨["lisu"],
    Ranges.ofText
      "42192 48 31408 1",
    none⟩,
   ⟨["lyci", "lycian"],
    Ranges.ofText
      "66176 29",
    none⟩,
   ⟨["lydi", "lydian"],
    Ranges.ofText
      "67872 26 5 1",
    none⟩,
   ⟨["mahj", "mahajani"],
    Ranges.ofText
      "69968 39",
    some (Ranges.ofText
      "2404 12 40640 10 26902 39")⟩,
   ⟨["maka", "makasar"],
    Ranges.ofText
      "73440 25",
    none⟩,
   ⟨["mlym", "malayalam"],
    Ranges.ofText
      "3328 13 1 3 1 51 1 3 1 6 4 16 2 26",
    some (Ranges.ofText
      "2385 2 17 2 922 13 1 3 1 51 1 3 1 6 4 16 2 26 3930 1 35669 3")⟩,
   ⟨["mand", "mandaic"],
    Ranges.ofText
      "2112 28 2 1",
    some (Ranges.ofText
      "1600 1 511 28 2 1")⟩,
   ⟨["mani", "manichaean"],
    Ranges.ofText
      "68288 39 4 12",
    some (Ranges.ofText
      "1600 1 66687 39 4 12")⟩,
   ⟨["marc", "marchen"],
    Ranges.ofText
      "72816 32 2 22 1 14",
    none⟩,
   ⟨["gonm", "masaramgondi"],
    Ranges.ofText
      "72960 7 1 2 1 44 3 1 1 2 1 9 8 10",
    some (Ranges.ofText
      "2404 2 70554 7 1 2 1 44 3 1 1 2 1 9 8 10")⟩,
   ⟨["medf", "medefaidrin"],
    Ranges.ofText
      "93760 91",
    none⟩,
   ⟨["mtei", "meeteimayek"],
    Ranges.ofText
      "43744 23 201 46 2 10",
    none⟩,
   ⟨["mend", "mendekikakui"],
    Ranges.ofText
      "124928 197 2 16",
    none⟩,
   ⟨["merc", "meroiticcursive"],
    Ranges.ofText
      "68000 24 4 20 2 46",
    none⟩,
   ⟨["mero", "meroitichieroglyphs"],
    Ranges.ofText
      "67968 32",
    none⟩,
   ⟨["plrd", "miao"],
    Ranges.ofText
      "93952 75 4 57 7 17",
    none⟩,
   ⟨["modi"],
    Ranges.ofText
      "71168 69 11 10",
    some (Ranges.ofText
      "43056 10 28102 69 11 10")⟩,
   ⟨["mong", "mongolian"],
    Ranges.ofText
      "6144 2 2 1 1 20 6 89 7 43 64949 13",
    some (Ranges.ofText
      "6144 26 6 89 7 43 1924 1 63024 13")⟩,
   ⟨["mroo", "mro"],
    Ranges.ofText
      "92736 31 1 10 4 2",
    none⟩,
   ⟨["mult", "multani"],
    Ranges.ofText
      "70272 7 1 1 1 4 1 15 1 11",
    some (Ranges.ofText
      "2662 10 67600 7 1 1 1 4 1 15 1 11")⟩,
   ⟨["mymr", "myanmar"],
    Ranges.ofText
      "4096 160 39232 31 97 32",
    some (Ranges.ofText
      "4096 160 39054 1 177 31 97 32")⟩,
   ⟨["nbat", "nabataean"],
    Ranges.ofText
      "67712 31 8 9",
    none⟩,
   ⟨["nagm", "nagmundari"],
    Ranges.ofText
      "124112 42",
    none⟩,
   ⟨["nand", "nandinagari"],
    Ranges.ofText
      "72096 8 2 46 2 11",
    some (Ranges.ofText
      "2404 2 896 10 4089 1 8 1 7 1 35637 6 29034 8 2 46 2 11")⟩,
   ⟨["talu", "newtailue"],
    Ranges.ofText
      "6528 44 4 26 6 11 3 2",
    none⟩,
   ⟨["newa"],
    Ranges.ofText
      "70656 92 1 5",
    none⟩,
   ⟨["nkoo", "nko"],
    Ranges.ofText
      "1984 59 2 3",
    some (Ranges.ofText
      "1548 1 14 1 3 1 416 59 2 3 62782 2")⟩,
   ⟨["nshu", "nushu"],
    Ranges.ofText
      "94177 1 16782 396",
    none⟩,
   ⟨["hmnp", "nyiakengpuachuehmong"],
    Ranges.ofText
      "123136 45 3 14 2 10 4 2",
    none⟩,
   ⟨["ogam", "ogham"],
    Ranges.ofText
      "5760 29",
    none⟩,
   ⟨["olck", "olchiki"],
    Ranges.ofText
      "7248 48",
    none⟩,
   ⟨["hung", "oldhungarian"],
    Ranges.ofText
      "68736 51 13 51 7 6",
    none⟩,
   ⟨["ital", "olditalic"],
    Ranges.ofText
      "66304 36 9 3",
    none⟩,
   ⟨["narb", "oldnortharabian"],
    Ranges.ofText
      "68224 32",
    none⟩,
   ⟨["perm", "oldpermic"],
    Ranges.ofText
      "66384 43",
    some (Ranges.ofText
      "1155 1 65228 43")⟩,
   ⟨["xpeo", "oldpersian"],
    Ranges.ofText
      "66464 36 4 14",
    none⟩,
   ⟨["sogo", "oldsogdian"],
    Ranges.ofText
      "69376 40",
    none⟩,
   ⟨["sarb", "oldsoutharabian"],
    Ranges.ofText
      "68192 32",
    none⟩,
   ⟨["orkh", "oldturkic"],
    Ranges.ofText
      "68608 73",
    none⟩,
   ⟨["ougr", "olduyghur"],
    Ranges.ofText
      "69488 26",
    some (Ranges.ofText
      "1600 1 66737 1 1149 26")⟩,
   ⟨["orya", "oriya"],
    Ranges.ofText
      "2817 3 1 8 2 2 2 22 1 7 1 2 1 5 2 9 2 2 2 3 7 3 4 2 1 5 2 18",
    some (Ranges.ofText
      "2385 2 17 2 411 3 1 8 2 2 2 22 1 7 1 2 1 5 2 9 2 2 2 3 7 3 4 2 1 5 2 18 4450 1 23 1")⟩,
   ⟨["osge", "osage"],
    Ranges.ofText
      "66736 36 4 36",
    none⟩,
   ⟨["osma", "osmanya"],
    Ranges.ofText
      "66688 30 2 10",
    none⟩,
   ⟨["hmng", "pahawhhmong"],
    Ranges.ofText
      "92928 70 10 10 1 7 1 21 5 19",
    none⟩,
   ⟨["palm", "palmyrene"],
    Ranges.ofText
      "67680 32",
    none⟩,
   ⟨["pauc", "paucinhau"],
    Ranges.ofText
      "72384 57",
    none⟩,
   ⟨["phag", "phagspa"],
    Ranges.ofText
      "43072 56",
    some (Ranges.ofText
      "6146 2 1 1 36922 56")⟩,
   ⟨["phnx", "phoenician"],
    Ranges.ofText
      "67840 28 3 1",
    none⟩,
   ⟨["phlp", "psalterpahlavi"],
    Ranges.ofText
      "68480 18 7 4 12 7",
    some (Ranges.ofText
      "1600 1 66879 18 7 4 12 7")⟩,
   ⟨["rjng", "rejang"],
    Ranges.ofText
      "43312 36 11 1",
    none⟩,
   ⟨["runr", "runic"],
    Ranges.ofText
      "5792 75 3 11",
    none⟩,
   ⟨["samr", "samaritan"],
    Ranges.ofText
      "2048 46 2 15",
    none⟩,
   ⟨["saur", "saurashtra"],
    Ranges.ofText
      "43136 70 8 12",
    none⟩,
   ⟨["shrd", "sharada"],
    Ranges.ofText
      "70016 96",
    some (Ranges.ofText
      "2385 1 4997 1 1 1 2 2 2 1 62623 96")⟩,
   ⟨["shaw", "shavian"],
    Ranges.ofText
      "66640 48",
    none⟩,
   ⟨["sidd", "siddham"],
    Ranges.ofText
      "71040 54 2 38",
    none⟩,
   ⟨["sgnw", "signwriting"],
    Ranges.ofText
      "120832 652 15 5 1 15",
    none⟩,
   ⟨["sinh", "sinhala"],
    Ranges.ofText
      "3457 3 1 18 3 24 1 9 1 1 2 7 3 1 4 6 1 1 1 8 6 10 2 3 66540 20",
    some (Ranges.ofText
      "2404 2 1051 3 1 18 3 24 1 9 1 1 2 7 3 1 4 6 1 1 1 8 6 10 2 3 66540 20")⟩,
   ⟨["sogd", "sogdian"],
    Ranges.ofText
      "69424 42",
    some (Ranges.ofText
      "1600 1 67823 42")⟩,
   ⟨["sora", "sorasompeng"],
    Ranges.ofText
      "69840 25 7 10",
    none⟩,
   ⟨["soyo", "soyombo"],
    Ranges.ofText
      "72272 83",
    none⟩,
   ⟨["sund", "sundanese"],
    Ranges.ofText
      "7040 64 256 8",
    none⟩,
   ⟨["sylo", "sylotinagri"],
    Ranges.ofText
      "43008 45",
    some (Ranges.ofText
      "2404 2 128 10 40464 45")⟩,
   ⟨["syrc", "syriac"],
    Ranges.ofText
      "1792 14 1 60 2 3 272 11",
    some (Ranges.ofText
      "1548 1 14 2 2 1 32 1 10 11 26 1 143 14 1 60 2 3 272 11 5517 1 1 1")⟩,
   ⟨["tglg", "tagalog"],
    Ranges.ofText
      "5888 22 9 1",
    some (Ranges.ofText
      "5888 22 9 1 21 2")⟩,
   ⟨["tagb", "tagbanwa"],
    Ranges.ofText
      "5984 13 1 3 1 2",
    some (Ranges.ofText
      "5941 2 41 13 1 3 1 2")⟩,
   ⟨["tale", "taile"],
    Ranges.ofText
      "6480 30 2 5",
    some (Ranges.ofText
      "4160 10 2310 30 2 5")⟩,
   ⟨["lana", "taitham"],
    Ranges.ofText
      "6688 63 1 29 2 11 6 10 6 14",
    none⟩,
   ⟨["tavt", "taiviet"],
    Ranges.ofText
      "43648 67 24 5",
    none⟩,
   ⟨["takr", "takri"],
    Ranges.ofText
      "71296 58 6 10",
    some (Ranges.ofText
      "2404 2 40650 10 28230 58 6 10")⟩,
   ⟨["taml", "tamil"],
    Ranges.ofText
      "2946 2 1 6 3 3 1 4 3 2 1 1 1 2 3 2 3 3 3 12 4 5 3 3 1 4 2 1 6 1 14 21 70597 50 13 1",
    some (Ranges.ofText
      "2385 2 17 2 540 2 1 6 3 3 1 4 3 2 1 1 1 2 3 2 3 3 3 12 4 5 3 3 1 4 2 1 6 1 14 21 4319 1
      35864 1 27149 1 1 1 55 2 3203 50 13 1")⟩,
   ⟨["tnsa", "tangsa"],
    Ranges.ofText
      "92784 79 1 10",
    none⟩,
   ⟨["tang", "tangut"],
    Ranges.ofText
      "94176 1 31 6136 8 768 512 9",
    none⟩,
   ⟨["telu", "telugu"],
    Ranges.ofText
      "3072 13 1 3 1 23 1 16 2 9 1 3 1 4 7 2 1 3 2 1 2 4 2 10 7 9",
    some (Ranges.ofText
      "2385 2 17 2 666 13 1 3 1 23 1 16 2 9 1 3 1 4 7 2 1 3 2 1 2 4 2 10 7 9 4186 1 23 1")⟩,
   ⟨["thaa", "thaana"],
    Ranges.ofText
      "1920 50",
    some (Ranges.ofText
      "1548 1 14 2 2 1 64 10 278 50 63040 1 10 1")⟩,
   ⟨["thai"],
    Ranges.ofText
      "3585 58 5 28",
    none⟩,
   ⟨["tibt", "tibetan"],
    Ranges.ofText
      "3840 72 1 36 4 39 1 36 1 15 1 7 4 2",
    none⟩,
   ⟨["tfng", "tifinagh"],
    Ranges.ofText
      "11568 56 7 2 14 1",
    none⟩,
   ⟨["tirh", "tirhuta"],
    Ranges.ofText
      "70784 72 8 10",
    some (Ranges.ofText
      "2385 2 17 2 5004 1 35645 10 27718 72 8 10")⟩,
   ⟨["toto"],
    Ranges.ofText
      "123536 31",
    none⟩,
   ⟨["ugar", "ugaritic"],
    Ranges.ofText
      "66432 30 1 1",
    none⟩,
   ⟨["vaii", "vai"],
    Ranges.ofText
      "42240 300",
    none⟩,
   ⟨["vith", "vithkuqi"],
    Ranges.ofText
      "66928 11 1 15 1 7 1 2 1 11 1 15 1 7 1 2",
    none⟩,
   ⟨["wcho", "wancho"],
    Ranges.ofText
      "123584 58 5 1",
    none⟩,
   ⟨["wara", "warangciti"],
    Ranges.ofText
      "71840 83 12 1",
    none⟩,
   ⟨["yezi", "yezidi"],
    Ranges.ofText
      "69248 42 1 3 2 2",
    some (Ranges.ofText
      "1548 1 14 1 3 1 64 10 67606 42 1 3 2 2")⟩,
   ⟨["yiii", "yi"],
    Ranges.ofText
      "40960 1165 3 55",
    some (Ranges.ofText
      "12289 2 5 10 2 8 223 1 28420 1165 3 55 23194 5")⟩,
   ⟨["zanb", "zanabazarsquare"],
    Ranges.ofText
      "72192 72",
    none⟩]

end JsonSchema.Unicode.Script
