import HostConsole.CodePoints.Stretches

/-! How each code point joins its neighbours within a word. -/

namespace HostConsole.Property.WordBreak

/-- Classes from code point 0 on. A stretch without a code has none. -/
def rows : List String :=
  ["10 LF1 NL2 CR1 18 WS1 1 DQ1 4 SQ1 4 MN1 1 MB1 1 NU10 ML1 MN1 5 LE26 4 EX1 1 LE26 10 NL1 36",
   "LE1 2 FO1 7 LE1 1 ML1 2 LE1 5 LE23 1 LE31 1 LE480 6 LE34 EXT112 LE5 1 LE2 2 LE4 MN1 LE1 6",
   "LE1 ML1 LE3 1 LE1 1 LE20 1 LE83 1 LE139 1 EXT7 LE166 1 LE38 2 LE4 1 LE1 ML1 LE41 MN1 LE1 6",
   "EXT45 1 EXT1 1 EXT2 1 EXT2 1 EXT1 8 HL27 4 HL4 LE1 ML1 11 NU6 6 MN2 2 EXT11 1 FO1 3 LE43",
   "EXT21 NU10 1 NU1 MN1 1 LE2 EXT1 LE99 1 LE1 EXT7 NU1 1 EXT6 LE2 EXT2 1 EXT4 LE2 NU10 LE3 2",
   "LE1 15 LE2 EXT1 LE30 EXT27 2 LE89 EXT11 LE1 14 NU10 LE33 EXT9 LE2 2 MN1 1 LE1 2 EXT1 2 LE22",
   "EXT4 LE1 EXT9 LE1 EXT3 LE1 EXT5 18 LE25 EXT3 4 LE11 5 LE24 1 LE6 1 NU2 5 EXT9 LE42 EXT24 NU1",
   "EXT33 LE54 EXT3 LE1 EXT18 LE1 EXT7 LE10 EXT2 2 NU10 1 LE16 EXT3 1 LE8 2 LE2 2 LE22 1 LE7 1",
   "LE1 3 LE4 2 EXT1 LE1 EXT7 2 EXT2 2 EXT3 LE1 8 EXT1 4 LE2 1 LE3 EXT2 2 NU10 LE2 10 LE1 1 EXT1",
   "2 EXT3 1 LE6 4 LE2 2 LE22 1 LE7 1 LE2 1 LE2 1 LE2 2 EXT1 1 EXT5 4 EXT2 2 EXT3 3 EXT1 7 LE4 1",
   "LE1 7 NU10 EXT2 LE3 EXT1 11 EXT3 1 LE9 1 LE3 1 LE22 1 LE7 1 LE2 1 LE5 2 EXT1 LE1 EXT8 1 EXT3",
   "1 EXT3 2 LE1 15 LE2 EXT2 2 NU10 9 LE1 EXT6 1 EXT3 1 LE8 2 LE2 2 LE22 1 LE7 1 LE2 1 LE5 2",
   "EXT1 LE1 EXT7 2 EXT2 2 EXT3 7 EXT3 4 LE2 1 LE3 EXT2 2 NU10 1 LE1 16 EXT1 LE1 1 LE6 3 LE3 1",
   "LE4 3 LE2 1 LE1 1 LE2 3 LE2 3 LE3 3 LE12 4 EXT5 3 EXT3 1 EXT4 2 LE1 6 EXT1 14 NU10 16 EXT5",
   "LE8 1 LE3 1 LE23 1 LE16 2 EXT1 LE1 EXT7 1 EXT3 1 EXT4 7 EXT2 1 LE3 2 LE1 2 LE2 EXT2 2 NU10",
   "16 LE1 EXT3 1 LE8 1 LE3 1 LE23 1 LE10 1 LE5 2 EXT1 LE1 EXT7 1 EXT3 1 EXT4 7 EXT2 6 LE2 1 LE2",
   "EXT2 2 NU10 1 LE2 EXT1 12 EXT4 LE9 1 LE3 1 LE41 EXT2 LE1 EXT7 1 EXT3 1 EXT4 LE1 5 LE3 EXT1 7",
   "LE3 EXT2 2 NU10 10 LE6 1 EXT3 1 LE18 3 LE24 1 LE9 1 LE1 2 LE7 3 EXT1 4 EXT6 1 EXT1 1 EXT8 6",
   "NU10 2 EXT2 61 EXT1 2 EXT7 12 EXT8 1 NU10 87 EXT1 2 EXT9 11 EXT7 1 NU10 38 LE1 23 EXT2 6",
   "NU10 11 EXT1 1 EXT1 1 EXT1 4 EXT2 LE8 1 LE36 4 EXT20 1 EXT2 LE5 EXT11 1 EXT36 9 EXT1 100",
   "EXT20 1 NU10 12 EXT4 4 EXT3 1 EXT3 2 EXT7 3 EXT4 13 EXT12 1 EXT1 NU10 EXT4 2 LE38 1 LE1 5",
   "LE1 2 LE43 1 LE333 1 LE4 2 LE7 1 LE1 1 LE4 2 LE41 1 LE4 2 LE33 1 LE4 2 LE7 1 LE1 1 LE4 2",
   "LE15 1 LE57 1 LE4 2 LE67 2 EXT3 32 LE16 16 LE86 2 LE6 3 LE620 2 LE17 WS1 LE26 5 LE75 3 LE11",
   "7 LE18 EXT4 9 LE19 EXT3 11 LE18 EXT2 12 LE13 1 LE3 1 EXT2 64 EXT32 9 EXT1 2 NU10 33 EXT3 FO1",
   "EXT1 NU10 6 LE89 7 LE5 EXT2 LE34 EXT1 LE1 5 LE70 10 LE31 1 EXT12 4 EXT12 10 NU10 128 NU11 37",
   "LE23 EXT5 57 EXT10 1 EXT29 2 EXT1 NU10 6 NU10 22 EXT31 49 EXT5 LE47 EXT17 LE8 3 NU10 17 EXT9",
   "12 EXT3 LE30 EXT13 LE2 NU10 LE44 EXT14 12 LE36 EXT20 8 NU10 3 LE3 NU10 LE36 2 LE11 5 LE43 2",
   "LE3 16 EXT3 1 EXT21 LE4 EXT1 LE6 EXT1 LE2 EXT3 LE1 5 LE192 EXT64 LE278 2 LE6 2 LE38 2 LE6 2",
   "LE8 1 LE1 1 LE1 1 LE1 1 LE31 2 LE53 1 LE7 1 LE1 3 LE3 1 LE7 3 LE4 2 LE6 4 LE13 5 LE3 1 LE7 3",
   "WS7 1 WS3 1 EXT1 ZWJ1 FO2 8 MB2 10 MB1 2 ML1 NL2 FO5 EX1 15 EX2 3 MN1 15 EX1 10 WS1 FO5 1",
   "FO10 1 LE1 13 LE1 16 LE13 51 EXT33 17 LE1 4 LE1 2 LE10 1 LE1 3 LE5 6 LE1 1 LE1 1 LE1 1 LE4 1",
   "LE11 2 LE4 5 LE5 4 LE1 17 LE41 813 LE52 1814 LE229 6 LE4 EXT3 LE2 12 LE38 1 LE1 5 LE1 2 LE56",
   "7 LE1 15 EXT1 LE23 9 LE7 1 LE7 1 LE7 1 LE7 1 LE7 1 LE7 1 LE7 1 LE7 1 EXT32 47 LE1 464 WS1 4",
   "LE1 36 EXT6 1 KA5 5 LE2 92 EXT2 KA2 3 KA91 1 KA4 5 LE43 1 LE94 17 LE32 48 KA16 208 KA47 1",
   "KA88 27816 LE1165 67 LE46 2 LE269 3 LE16 NU10 LE2 20 LE47 EXT4 1 EXT10 1 LE31 EXT2 LE80 EXT2",
   "22 LE198 2 LE2 1 LE1 1 LE8 21 LE16 EXT1 LE3 EXT1 LE4 EXT1 LE23 EXT5 4 EXT1 19 LE52 12 EXT2",
   "LE50 EXT18 10 NU10 6 EXT18 LE6 3 LE1 1 LE2 EXT1 NU10 LE28 EXT8 2 LE23 EXT13 12 LE29 3 EXT4",
   "LE47 EXT14 14 LE1 NU10 11 EXT1 10 NU10 6 LE41 EXT14 9 LE3 EXT1 LE8 EXT2 2 NU10 33 EXT3 50",
   "EXT1 1 EXT3 2 EXT2 5 EXT2 1 EXT1 30 LE11 EXT5 2 LE3 EXT2 10 LE6 2 LE6 2 LE6 9 LE7 1 LE7 1",
   "LE58 6 LE115 EXT8 1 EXT2 2 NU10 6 LE11172 12 LE23 4 LE49 8964 LE7 12 LE5 5 HL1 EXT1 HL10 1",
   "HL13 1 HL5 1 HL1 1 HL2 1 HL2 1 HL10 LE98 33 LE363 18 LE64 2 LE54 40 LE12 4 EXT16 3 ML1 12",
   "EXT16 3 EX2 24 EX3 MN1 1 MB1 1 MN1 ML1 26 LE5 1 LE135 2 FO1 7 MB1 4 MN1 1 MB1 1 NU10 ML1 MN1",
   "5 LE26 4 EX1 1 LE26 11 KA56 EXT2 LE31 3 LE6 2 LE6 2 LE6 2 LE3 28 FO3 4 LE12 1 LE26 1 LE19 1",
   "LE2 1 LE15 2 LE14 34 LE123 69 LE53 136 EXT1 130 LE29 3 LE49 15 EXT1 31 LE32 13 LE30 5 LE38",
   "EXT5 5 LE30 2 LE36 4 LE8 1 LE5 42 LE158 2 NU10 6 LE36 4 LE36 4 LE40 8 LE52 12 LE11 1 LE15 1",
   "LE7 1 LE2 1 LE11 1 LE15 1 LE7 1 LE2 3 LE52 12 LE311 9 LE22 10 LE8 24 LE6 1 LE42 1 LE9 69 LE6",
   "2 LE1 1 LE44 1 LE2 3 LE1 2 LE23 10 LE23 9 LE31 65 LE19 1 LE2 10 LE22 10 LE26 70 LE56 6 LE2",
   "64 LE1 EXT3 1 EXT2 5 EXT4 LE4 1 LE3 1 LE29 2 EXT3 4 EXT1 32 LE29 3 LE29 35 LE8 1 LE28 EXT2",
   "25 LE54 10 LE22 10 LE19 13 LE18 110 LE73 55 LE51 13 LE51 13 LE36 EXT4 8 NU10 6 NU10 LE28 3",
   "EXT5 1 LE23 250 LE42 1 EXT2 3 LE2 16 LE3 55 EXT4 LE29 10 LE1 8 LE22 EXT11 31 LE18 EXT4 42",
   "LE21 27 LE23 9 EXT3 LE53 EXT15 31 NU10 EXT1 LE2 EXT2 LE1 9 EXT4 LE45 EXT11 2 NU1 4 EXT1 10",
   "NU1 2 LE25 7 NU10 6 EXT3 LE36 EXT14 1 NU10 4 LE1 EXT2 LE1 8 LE35 EXT1 2 LE1 9 EXT3 LE48",
   "EXT14 LE4 4 EXT4 1 EXT2 NU10 LE1 1 LE1 35 LE18 1 LE25 EXT12 6 EXT1 LE2 EXT1 62 LE7 1 LE1 1",
   "LE4 1 LE15 1 LE10 7 LE47 EXT12 5 NU10 6 EXT4 1 LE8 2 LE2 2 LE22 1 LE7 1 LE2 1 LE5 1 EXT2 LE1",
   "EXT7 2 EXT2 2 EXT3 2 LE1 6 EXT1 5 LE5 EXT2 2 EXT7 3 EXT5 11 LE10 1 LE1 2 LE1 1 LE38 1 LE1",
   "EXT9 1 EXT1 2 EXT1 1 EXT4 1 EXT5 LE1 EXT1 LE1 13 EXT2 29 LE53 EXT18 LE4 5 NU10 4 EXT1 LE3 30",
   "LE48 EXT20 LE2 1 LE1 8 NU10 166 LE47 EXT7 2 EXT9 23 LE4 EXT2 34 LE48 EXT17 3 LE1 11 NU10 38",
   "LE43 EXT13 LE1 7 NU10 6 NU20 57 EXT15 4 NU10 198 LE44 EXT15 101 LE64 NU10 21 LE8 2 LE1 2 LE8",
   "1 LE2 1 LE24 EXT6 1 EXT2 2 EXT4 LE1 EXT1 LE1 EXT2 12 NU10 70 LE8 2 LE39 EXT7 2 EXT7 LE1 1",
   "LE1 EXT1 27 LE1 EXT10 LE40 EXT7 LE1 EXT4 8 EXT1 8 LE1 EXT11 LE46 EXT16 3 LE1 18 LE73 199",
   "LE33 15 NU10 6 LE9 1 LE37 EXT8 1 EXT8 LE1 15 NU10 24 LE30 2 EXT22 1 EXT14 73 LE7 1 LE2 1",
   "LE38 EXT6 3 EXT1 1 EXT2 1 EXT7 LE1 EXT1 8 NU10 6 LE6 1 LE2 1 LE32 EXT5 1 EXT2 1 EXT5 LE1 7",
   "NU10 310 LE19 EXT4 9 EXT2 LE1 EXT1 LE13 1 LE34 EXT7 3 EXT5 13 NU10 EXT1 85 LE1 79 LE922 102",
   "LE111 17 LE196 2636 LE97 15 LE1072 FO16 EXT1 LE6 EXT15 10 LE3995 5 LE583 6841 LE30 EXT18",
   "NU10 1734 LE569 7 LE31 1 NU10 6 LE79 1 NU10 6 LE30 2 EXT5 11 LE48 EXT7 9 LE4 12 NU10 9 LE21",
   "5 LE19 432 LE45 3 NU10 198 LE64 128 LE75 4 EXT1 LE1 EXT55 7 EXT4 LE13 64 LE2 1 LE1 EXT1 11",
   "EXT2 16382 KA4 1 KA7 1 KA2 1 KA1 287 KA3 50 KA1 14 KA4 2712 LE107 5 LE13 3 LE9 7 LE10 3 EXT2",
   "1 FO4 4172 NU10 518 EXT46 2 EXT23 542 EXT5 3 EXT6 FO8 EXT8 2 EXT7 30 EXT4 148 EXT3 443 LE85",
   "1 LE71 1 LE2 2 LE1 2 LE2 2 LE4 1 LE12 1 LE1 1 LE7 1 LE65 1 LE4 2 LE8 1 LE7 1 LE28 1 LE4 1",
   "LE5 1 LE1 3 LE7 1 LE340 2 LE25 1 LE25 1 LE31 1 LE25 1 LE31 1 LE25 1 LE31 1 LE25 1 LE31 1",
   "LE25 1 LE8 2 NU50 512 EXT55 4 EXT50 8 EXT1 14 EXT1 22 EXT5 1 EXT15 1104 LE31 6 LE6 213 EXT7",
   "1 EXT17 2 EXT7 1 EXT2 1 EXT5 5 LE62 33 EXT1 112 LE45 3 EXT7 LE7 2 NU10 4 LE1 321 LE30 EXT1",
   "17 LE44 EXT4 NU10 470 LE28 EXT4 NU10 214 LE30 EXT2 LE1 NU10 485 LE7 1 LE4 1 LE2 1 LE15 1",
   "LE197 11 EXT7 41 LE68 EXT7 LE1 4 NU10 1190 LE4 1 LE27 1 LE2 1 LE1 2 LE1 1 LE10 1 LE4 1 LE1 1",
   "LE1 6 LE1 4 LE1 1 LE1 1 LE1 1 LE3 1 LE2 1 LE1 2 LE1 1 LE1 1 LE1 1 LE1 1 LE1 1 LE2 1 LE1 2",
   "LE4 1 LE7 1 LE4 1 LE4 1 LE1 1 LE10 1 LE17 5 LE3 1 LE5 1 LE17 628 LE26 6 LE26 6 LE26 92 RI26",
   "507 EXT5 2032 NU10 787463 FO1 30 EXT96 128 EXT240 196112"]

def stretches : List Stretch :=
  Stretch.ofRows rows

def withCode (code : String) : CodePoints :=
  .ofStretches (· == code) stretches

def names : List (List String × String) :=
  [(["cr"], "CR"), (["dq", "doublequote"], "DQ"), (["ex", "extendnumlet"], "EX"),
   (["extend"], "EXT"), (["fo", "format"], "FO"), (["hl", "hebrewletter"], "HL"),
   (["ka", "katakana"], "KA"), (["le", "aletter"], "LE"), (["lf"], "LF"),
   (["mb", "midnumlet"], "MB"), (["ml", "midletter"], "ML"), (["mn", "midnum"], "MN"),
   (["nl", "newline"], "NL"), (["nu", "numeric"], "NU"), (["ri", "regionalindicator"], "RI"),
   (["sq", "singlequote"], "SQ"), (["wsegspace"], "WS"), (["zwj"], "ZWJ")]

end HostConsole.Property.WordBreak
