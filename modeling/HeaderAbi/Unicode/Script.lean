import HeaderAbi.Unicode.RangeTable

/-!
# Scripts

The characters of some widely used scripts.
-/

namespace HeaderAbi.Unicode

/-- A script. -/
inductive Script where
  | arabic
  | armenian
  | cyrillic
  | devanagari
  | georgian
  | greek
  | han
  | hangul
  | hebrew
  | hiragana
  | katakana
  | latin
  | thai
deriving DecidableEq, Inhabited

namespace Script

def arabicTable : RangeTable := .ofLines [
  "600-604 606-60b 60d-61a 61c-61e 620-63f 641-64a 656-66f 671-6dc 6de-6ff 750-77f 870-88e",
  "890-891 898-8e1 8e3-8ff fb50-fbc2 fbd3-fd3d fd40-fd8f fd92-fdc7 fdcf fdf0-fdff fe70-fe74",
  "fe76-fefc 10e60-10e7e 10efd-10eff 1ee00-1ee03 1ee05-1ee1f 1ee21-1ee22 1ee24 1ee27 1ee29-1ee32",
  "1ee34-1ee37 1ee39 1ee3b 1ee42 1ee47 1ee49 1ee4b 1ee4d-1ee4f 1ee51-1ee52 1ee54 1ee57 1ee59",
  "1ee5b 1ee5d 1ee5f 1ee61-1ee62 1ee64 1ee67-1ee6a 1ee6c-1ee72 1ee74-1ee77 1ee79-1ee7c 1ee7e",
  "1ee80-1ee89 1ee8b-1ee9b 1eea1-1eea3 1eea5-1eea9 1eeab-1eebb 1eef0-1eef1"]

def armenianTable : RangeTable := .ofLines ["531-556 559-58a 58d-58f fb13-fb17"]

def cyrillicTable : RangeTable := .ofLines [
  "400-484 487-52f 1c80-1c88 1d2b 1d78 2de0-2dff a640-a69f fe2e-fe2f 1e030-1e06d 1e08f"]

def devanagariTable : RangeTable := .ofLines [
  "900-950 955-963 966-97f a8e0-a8ff 11b00-11b09"]

def georgianTable : RangeTable := .ofLines [
  "10a0-10c5 10c7 10cd 10d0-10fa 10fc-10ff 1c90-1cba 1cbd-1cbf 2d00-2d25 2d27 2d2d"]

def greekTable : RangeTable := .ofLines [
  "370-373 375-377 37a-37d 37f 384 386 388-38a 38c 38e-3a1 3a3-3e1 3f0-3ff 1d26-1d2a 1d5d-1d61",
  "1d66-1d6a 1dbf 1f00-1f15 1f18-1f1d 1f20-1f45 1f48-1f4d 1f50-1f57 1f59 1f5b 1f5d 1f5f-1f7d",
  "1f80-1fb4 1fb6-1fc4 1fc6-1fd3 1fd6-1fdb 1fdd-1fef 1ff2-1ff4 1ff6-1ffe 2126 ab65 10140-1018e",
  "101a0 1d200-1d245"]

def hanTable : RangeTable := .ofLines [
  "2e80-2e99 2e9b-2ef3 2f00-2fd5 3005 3007 3021-3029 3038-303b 3400-4dbf 4e00-9fff f900-fa6d",
  "fa70-fad9 16fe2-16fe3 16ff0-16ff1 20000-2a6df 2a700-2b739 2b740-2b81d 2b820-2cea1 2ceb0-2ebe0",
  "2f800-2fa1d 30000-3134a 31350-323af"]

def hangulTable : RangeTable := .ofLines [
  "1100-11ff 302e-302f 3131-318e 3200-321e 3260-327e a960-a97c ac00-d7a3 d7b0-d7c6 d7cb-d7fb",
  "ffa0-ffbe ffc2-ffc7 ffca-ffcf ffd2-ffd7 ffda-ffdc"]

def hebrewTable : RangeTable := .ofLines [
  "591-5c7 5d0-5ea 5ef-5f4 fb1d-fb36 fb38-fb3c fb3e fb40-fb41 fb43-fb44 fb46-fb4f"]

def hiraganaTable : RangeTable := .ofLines [
  "3041-3096 309d-309f 1b001-1b11f 1b132 1b150-1b152 1f200"]

def katakanaTable : RangeTable := .ofLines [
  "30a1-30fa 30fd-30ff 31f0-31ff 32d0-32fe 3300-3357 ff66-ff6f ff71-ff9d 1aff0-1aff3 1aff5-1affb",
  "1affd-1affe 1b000 1b120-1b122 1b155 1b164-1b167"]

def latinTable : RangeTable := .ofLines [
  "41-5a 61-7a aa ba c0-d6 d8-f6 f8-2b8 2e0-2e4 1d00-1d25 1d2c-1d5c 1d62-1d65 1d6b-1d77 1d79-1dbe",
  "1e00-1eff 2071 207f 2090-209c 212a-212b 2132 214e 2160-2188 2c60-2c7f a722-a787 a78b-a7ca",
  "a7d0-a7d1 a7d3 a7d5-a7d9 a7f2-a7ff ab30-ab5a ab5c-ab64 ab66-ab69 fb00-fb06 ff21-ff3a ff41-ff5a",
  "10780-10785 10787-107b0 107b2-107ba 1df00-1df1e 1df25-1df2a"]

def thaiTable : RangeTable := .ofLines ["e01-e3a e40-e5b"]

def table : Script → RangeTable
  | .arabic => arabicTable
  | .armenian => armenianTable
  | .cyrillic => cyrillicTable
  | .devanagari => devanagariTable
  | .georgian => georgianTable
  | .greek => greekTable
  | .han => hanTable
  | .hangul => hangulTable
  | .hebrew => hebrewTable
  | .hiragana => hiraganaTable
  | .katakana => katakanaTable
  | .latin => latinTable
  | .thai => thaiTable

end Script

end HeaderAbi.Unicode
