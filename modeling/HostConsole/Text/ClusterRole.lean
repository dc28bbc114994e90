import HostConsole.CodePoints.Stretches

/-! The parts that a character plays in a cluster, the unit of text that a reader takes
for one character. -/

namespace HostConsole.Text

/-- What a character does next to others. -/
inductive ClusterRole where
  | other
  | carriageReturn
  | lineFeed
  | control
  /-- A mark on the character before it. -/
  | mark
  /-- A mark that ties the letters of a conjunct. -/
  | linker
  /-- A mark that keeps its neighbours apart. -/
  | separator
  | joiner
  | spacingMark
  | prepended
  | regional
  /-- A letter that others can be tied to. -/
  | consonant
  | pictograph
  | leading
  | vowel
  | trailing
  /-- A syllable without a trailing part. -/
  | openSyllable
  | closedSyllable
  deriving DecidableEq

namespace ClusterRole

/-- Roles from code point 0 on. A stretch without a code plays no part. -/
def stretches : List Stretch := Stretch.ofRows
  ["cn10 lf1 cn2 cr1 cn18 95 cn33 9 xp1 3 cn1 xp1 593 ex112 275 ex7 263 ex45 1 ex1 1 ex2 1 ex2 1",
   "ex1 56 pp6 10 ex11 1 cn1 46 ex21 16 ex1 101 ex7 pp1 1 ex6 2 ex2 1 ex4 33 pp1 1 ex1 30 ex27",
   "91 ex11 58 ex9 9 ex1 24 ex4 1 ex9 1 ex3 1 ex5 43 ex3 52 pp2 5 ex9 42 ex24 pp1 ex32 sm1 17",
   "co37 ex1 sm1 ex1 1 sm3 ex8 sm4 lk1 sm2 1 ex7 co8 2 ex2 20 co8 1 ex1 sm2 17 co20 1 co7 1 co1",
   "3 co4 2 ex1 1 ex1 sm2 ex4 2 sm2 2 sm2 lk1 9 ex1 4 co2 1 co1 2 ex2 12 co2 12 ex1 2 ex2 sm1 56",
   "ex1 1 sm3 ex2 4 ex2 2 ex3 3 ex1 30 ex2 3 ex1 11 ex2 sm1 17 co20 1 co7 1 co2 1 co5 2 ex1 1",
   "sm3 ex5 1 ex2 sm1 1 sm2 lk1 20 ex2 21 co1 ex6 1 ex1 sm2 17 co20 1 co7 1 co2 1 co5 2 ex1 1",
   "ex2 sm1 ex4 2 sm2 2 sm2 lk1 7 ex3 4 co2 1 co1 2 ex2 13 co1 16 ex1 59 ex1 sm1 ex1 sm2 3 sm3 1",
   "sm3 ex1 9 ex1 40 ex1 sm3 ex1 16 co20 1 co16 2 ex1 1 ex3 sm4 1 ex3 1 ex3 lk1 7 ex2 1 co3 7",
   "ex2 29 ex1 sm2 56 ex1 1 sm1 ex2 sm1 ex1 sm2 1 ex3 1 ex4 7 ex2 11 ex2 15 sm1 12 ex2 sm2 17",
   "co38 ex2 1 ex1 sm2 ex4 1 sm3 1 sm3 lk1 pp1 8 ex1 10 ex2 29 ex1 sm2 70 ex1 4 ex1 sm2 ex3 1",
   "ex1 1 sm7 ex1 18 sm2 61 ex1 1 sm1 ex7 12 ex8 98 ex1 1 sm1 ex9 11 ex7 73 ex2 27 ex1 1 ex1 1",
   "ex1 4 sm2 49 ex14 sm1 ex5 1 ex2 5 ex11 1 ex36 9 ex1 57 co43 2 ex4 sm1 ex6 1 lk1 ex1 sm2 ex2",
   "co1 16 co6 sm2 ex2 co4 ex3 co1 3 co2 7 co3 ex4 co13 ex1 1 sm1 ex2 6 ex1 co1 14 ex1 98 l96",
   "v72 t88 349 ex3 946 ex4 28 ex3 29 ex2 30 ex2 12 co52 ex2 sm1 ex7 sm8 ex1 sm2 ex9 lk1 ex1 9",
   "ex1 45 ex3 cn1 ex1 117 ex2 34 ex1 118 ex3 sm4 ex2 sm3 4 sm2 ex1 sm6 ex3 219 ex2 sm2 ex1 4",
   "co53 sm1 ex1 sm1 ex7 1 lk1 1 ex1 2 ex8 sm6 ex10 2 ex1 48 ex46 2 ex12 20 ex4 sm1 6 co2 6 co33",
   "ex10 sm4 ex2 lk1 co8 30 ex9 12 ex2 sm1 co30 sm1 ex4 sm2 ex3 lk1 ex2 co2 11 co3 40 ex1 sm1",
   "ex2 sm3 ex1 sm1 ex5 48 sm8 ex8 sm2 ex2 152 ex3 1 ex13 sm1 ex7 4 ex1 6 ex1 2 sm1 ex2 198 ex64",
   "523 cn1 nj1 zwj1 cn2 24 cn7 13 xp1 12 xp1 22 cn16 96 ex33 49 xp1 22 xp1 90 xp6 15 xp2 367",
   "xp2 12 xp1 166 xp1 25 xp11 4 xp3 199 xp1 231 xp2 10 xp1 9 xp1 58 xp4 1 xp5 9 xp1 2 xp1 2 xp2",
   "2 xp1 4 xp1 2 xp1 1 xp2 2 xp1 3 xp1 3 xp2 8 xp3 5 xp1 1 xp1 5 xp12 11 xp2 2 xp1 1 xp2 1 xp1",
   "18 xp1 2 xp2 18 xp6 1 xp1 1 xp2 3 xp2 5 xp1 2 xp2 4 xp2 11 xp2 5 xp2 2 xp1 5 xp2 1 xp1 1 xp2",
   "20 xp2 5 xp6 1 xp4 2 xp1 4 xp1 2 xp1 2 xp6 1 xp1 2 xp1 1 xp1 1 xp1 6 xp1 3 xp1 6 xp1 10 xp2",
   "15 xp1 2 xp1 4 xp1 1 xp1 4 xp3 1 xp1 11 xp2 48 xp3 9 xp1 14 xp1 14 xp1 372 xp2 463 xp3 19",
   "xp2 51 xp1 4 xp1 409 ex3 141 ex1 96 ex32 554 ex6 xp1 12 xp1 91 ex2 508 xp1 1 xp1 29653 ex4 1",
   "ex10 32 ex2 80 ex2 272 ex1 3 ex1 4 ex1 23 sm2 ex2 sm1 4 ex1 83 sm2 50 sm16 ex2 26 ex18 13",
   "ex1 38 ex8 25 ex11 sm1 ex1 12 l29 3 ex3 sm1 5 co3 3 co36 ex1 sm2 ex4 sm2 ex2 sm2 lk1 31 co5",
   "ex1 1 co9 10 co5 42 ex6 sm2 ex2 sm2 ex2 12 ex1 8 ex1 sm1 18 co16 1 co3 6 co1 1 ex1 1 co2 48",
   "ex1 1 ex3 2 ex2 5 ex2 1 ex1 30 co11 sm1 ex2 sm2 5 sm1 lk1 201 co27 8 sm2 ex1 sm2 ex1 sm2 1",
   "sm1 ex1 18 hs11172 12 v23 4 t49 8994 ex1 737 ex16 16 ex16 207 cn1 158 ex2 80 cn12 513 ex1",
   "226 ex1 149 ex5 1669 co1 ex3 1 ex2 5 ex4 co4 1 co3 1 co29 2 ex3 4 lk1 165 ex2 573 ex4 65 ex5",
   "317 ex2 77 ex6 70 ex11 49 ex4 122 sm1 ex1 sm1 53 ex15 41 ex1 2 ex2 10 ex3 sm1 45 sm3 ex4 sm2",
   "ex2 2 pp1 4 ex1 10 pp1 50 ex3 co36 ex5 sm1 ex6 lk1 ex1 15 co1 sm2 co1 43 ex1 12 ex2 sm1 48",
   "sm3 ex9 sm1 ex1 1 pp2 5 ex4 1 sm1 ex1 92 sm3 ex3 sm2 ex4 6 ex1 2 ex1 157 ex1 sm3 ex8 21 ex2",
   "sm2 55 ex2 1 ex1 sm1 ex1 sm4 2 sm2 2 sm2 ex1 9 ex1 10 sm2 2 ex7 3 ex5 11 co10 1 co1 2 co1 1",
   "co38 2 ex1 sm2 ex6 1 ex1 2 ex1 1 ex3 sm1 1 sm2 ex2 lk1 pp1 ex1 14 ex2 82 sm3 ex8 sm2 ex3 sm1",
   "ex1 23 ex1 81 ex1 sm2 ex6 sm1 ex1 sm2 ex1 sm1 ex2 sm1 ex2 235 ex1 sm2 ex4 2 sm4 ex2 sm1 ex2",
   "27 ex2 82 sm3 ex8 sm2 ex1 sm1 ex2 106 ex1 sm1 ex1 sm2 ex8 101 ex1 sm1 ex1 2 ex4 sm1 ex5 256",
   "sm3 ex9 sm1 ex2 197 co7 2 co1 2 co8 1 co2 1 co24 ex1 sm5 1 sm2 2 ex3 lk1 pp1 sm1 pp1 sm1 ex1",
   "141 sm3 ex4 2 ex2 sm4 ex1 3 sm1 27 co1 ex10 co40 ex6 sm1 1 ex4 8 lk1 8 co1 ex6 sm2 ex3 co40",
   "pp6 ex13 sm1 ex1 lk1 198 ex1 sm1 ex3 sm1 ex1 sm1 199 sm1 ex7 1 ex6 sm1 ex1 82 ex22 1 sm1 ex7",
   "sm1 ex2 sm1 ex2 122 ex6 3 ex1 1 ex2 1 ex7 pp1 ex1 66 sm5 1 ex2 1 sm2 ex1 sm1 ex1 347 ex2 sm2",
   "9 ex2 pp1 sm1 co13 1 co34 sm2 ex5 3 sm2 ex2 lk1 23 ex1 5333 cn16 ex1 6 ex15 11464 ex12 sm3",
   "ex3 2496 ex5 59 ex7 556 v1 3 v4 484 ex1 1 sm55 7 ex4 81 ex1 11 ex2 19627 ex2 1 cn4 4700 ex46",
   "2 ex23 542 ex5 3 ex6 cn8 ex8 2 ex7 30 ex4 148 ex3 1979 ex55 4 ex50 8 ex1 14 ex1 22 ex5 1",
   "ex15 1360 ex7 1 ex17 2 ex7 1 ex2 1 ex5 100 ex1 160 ex7 375 ex1 61 ex4 508 ex4 254 ex2 243",
   "ex1 2 ex1 7 ex2 5 ex1 474 ex7 109 ex7 1721 xp1 39 xp4 100 xp12 15 xp2 15 xp1 14 xp2 37 xp10",
   "112 xp2 12 xp2 14 xp1 2 xp10 19 xp56 ri26 1 xp15 10 xp1 20 xp1 2 xp9 1 xp4 9 xp23 6 xp188 2",
   "xp112 2 xp2 1 xp3 2 xp83 2 xp3 1 xp4 ex5 xp254 1 xp63 11 xp6 1 xp24 7 xp2 2 xp8 12 xp1 2 xp4",
   "2 xp1 4 xp2 13 xp2 2 xp1 8 xp2 9 xp1 5 xp3 12 xp3 8 xp3 2 xp1 1 xp1 4 xp1 6 xp1 3 xp1 6 xp86",
   "48 xp70 5 xp8 2 xp17 3 xp1 1 xp6 2 xp13 218 xp38 12 xp4 56 xp8 10 xp6 40 xp8 30 xp2 12 xp4 2",
   "xp14 9 xp39 12 xp47 1 xp10 1 xp185 88 xp8 14 xp146 256 xp1022 786434 cn32 ex96 cn128 ex240",
   "cn3600 192512"]

/-- The role with a code. The syllables of a code lie in rows of 28, the open one first. -/
def ofCode (code : String) (point : Nat) : ClusterRole :=
  match code with
  | "cr" => .carriageReturn
  | "lf" => .lineFeed
  | "cn" => .control
  | "ex" => .mark
  | "lk" => .linker
  | "nj" => .separator
  | "zwj" => .joiner
  | "sm" => .spacingMark
  | "pp" => .prepended
  | "ri" => .regional
  | "co" => .consonant
  | "xp" => .pictograph
  | "l" => .leading
  | "v" => .vowel
  | "t" => .trailing
  | "hs" => if (point - 0xAC00) % 28 = 0 then .openSyllable else .closedSyllable
  | _ => .other

def ofChar (c : Char) : ClusterRole :=
  ofCode ((Stretch.valueAt? c.toNat stretches).getD "") c.toNat

end ClusterRole

end HostConsole.Text
