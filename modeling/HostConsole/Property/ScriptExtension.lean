import HostConsole.Property.Script

/-! Characters that several scripts use. Where nothing is said here, a character is
used by its own script alone. -/

namespace HostConsole.Property.ScriptExtension

/-- Groups of scripts that share characters, each under a letter pair. -/
def groups : List (String × List String) :=
  [("aa", ["Avst", "Cari", "Copt", "Dupl", "Elba", "Geor", "Glag", "Gong", "Goth", "Grek",
      "Hani", "Latn", "Lydi", "Mahj", "Perm", "Shaw"]),
   ("ab", ["Beng", "Cyrl", "Deva", "Latn", "Lisu", "Thai", "Toto"]),
   ("ac", ["Bopo", "Latn"]),
   ("ad", ["Latn", "Lisu"]),
   ("ae", ["Latn", "Thai"]),
   ("af", ["Cher", "Copt", "Cyrl", "Grek", "Latn", "Perm", "Sunu", "Tale"]),
   ("ag", ["Cher", "Cyrl", "Grek", "Latn", "Osge", "Sunu", "Tale", "Todr"]),
   ("ah", ["Cher", "Cyrl", "Latn", "Tfng"]),
   ("ai", ["Glag", "Latn", "Sunu", "Syrc", "Thai"]),
   ("aj", ["Aghb", "Cher", "Copt", "Cyrl", "Goth", "Grek", "Latn", "Osge", "Syrc", "Tfng",
      "Todr"]),
   ("ak", ["Copt", "Elba", "Glag", "Goth", "Kana", "Latn"]),
   ("al", ["Cyrl", "Grek", "Latn", "Perm"]),
   ("am", ["Copt", "Dupl", "Hebr", "Latn", "Perm", "Syrc", "Tale", "Tfng", "Todr"]),
   ("an", ["Armn", "Cyrl", "Dupl", "Goth", "Grek", "Hebr", "Latn", "Perm", "Syrc", "Tale"]),
   ("ao", ["Latn", "Tfng"]),
   ("ap", ["Dupl", "Latn", "Syrc"]),
   ("aq", ["Cher", "Cyrl", "Latn", "Osge"]),
   ("ar", ["Cher", "Latn", "Tale"]),
   ("as", ["Latn", "Sunu"]),
   ("at", ["Ethi", "Latn"]),
   ("au", ["Cyrl", "Latn", "Todr"]),
   ("av", ["Grek", "Latn", "Perm", "Todr"]),
   ("aw", ["Latn", "Syrc"]),
   ("ax", ["Cher", "Dupl", "Kana", "Latn", "Syrc"]),
   ("ay", ["Cher", "Dupl", "Latn", "Syrc"]),
   ("az", ["Latn", "Sunu", "Syrc"]),
   ("ba", ["Cher", "Latn", "Syrc"]),
   ("bb", ["Aghb", "Cher", "Goth", "Latn", "Sunu", "Thai"]),
   ("bc", ["Grek"]),
   ("bd", ["Latn", "Osge"]),
   ("be", ["Aghb", "Latn", "Todr"]),
   ("bf", ["Latn"]),
   ("bg", ["Copt", "Grek"]),
   ("bh", ["Cyrl", "Perm"]),
   ("bi", ["Cyrl", "Glag"]),
   ("bj", ["Cyrl", "Latn"]),
   ("bk", ["Armn", "Geor", "Glag"]),
   ("bl", ["Arab", "Gara", "Nkoo", "Rohg", "Syrc", "Thaa", "Yezi"]),
   ("bm", ["Arab", "Syrc", "Thaa"]),
   ("bn", ["Adlm", "Arab", "Gara", "Nkoo", "Rohg", "Syrc", "Thaa", "Yezi"]),
   ("bo", ["Adlm", "Arab", "Mand", "Mani", "Ougr", "Phlp", "Rohg", "Sogd", "Syrc"]),
   ("bp", ["Arab", "Syrc"]),
   ("bq", ["Arab", "Thaa", "Yezi"]),
   ("br", ["Arab", "Rohg"]),
   ("bs", ["Beng", "Deva", "Gran", "Gujr", "Guru", "Knda", "Latn", "Mlym", "Orya", "Shrd",
      "Taml", "Telu", "Tirh"]),
   ("bt", ["Beng", "Deva", "Gran", "Gujr", "Guru", "Knda", "Latn", "Mlym", "Orya", "Taml",
      "Telu", "Tirh"]),
   ("bu", ["Beng", "Deva", "Dogr", "Gong", "Gonm", "Gran", "Gujr", "Guru", "Knda", "Mahj",
      "Mlym", "Nand", "Onao", "Orya", "Sind", "Sinh", "Sylo", "Takr", "Taml", "Telu", "Tirh"]),
   ("bv", ["Beng", "Deva", "Dogr", "Gong", "Gonm", "Gran", "Gujr", "Gukh", "Guru", "Knda",
      "Limb", "Mahj", "Mlym", "Nand", "Onao", "Orya", "Sind", "Sinh", "Sylo", "Takr", "Taml",
      "Telu", "Tirh"]),
   ("bw", ["Deva", "Dogr", "Kthi", "Mahj"]),
   ("bx", ["Beng", "Cakm", "Sylo"]),
   ("by", ["Guru", "Mult"]),
   ("bz", ["Gujr", "Khoj"]),
   ("ca", ["Gran", "Taml"]),
   ("cb", ["Knda", "Nand", "Tutg"]),
   ("cc", ["Cakm", "Mymr", "Tale"]),
   ("cd", ["Geor", "Glag", "Latn"]),
   ("ce", ["Runr"]),
   ("cf", ["Buhd", "Hano", "Tagb", "Tglg"]),
   ("cg", ["Mong", "Phag"]),
   ("ch", ["Beng", "Deva", "Gran", "Knda"]),
   ("ci", ["Deva"]),
   ("cj", ["Deva", "Gran", "Knda"]),
   ("ck", ["Beng", "Deva"]),
   ("cl", ["Deva", "Shrd"]),
   ("cm", ["Deva", "Knda", "Mlym", "Orya", "Taml", "Telu"]),
   ("cn", ["Deva", "Nand"]),
   ("co", ["Beng", "Deva", "Gran", "Knda", "Mlym", "Nand", "Orya", "Sinh", "Telu", "Tirh",
      "Tutg"]),
   ("cp", ["Deva", "Gran"]),
   ("cq", ["Deva", "Gran", "Knda", "Tutg"]),
   ("cr", ["Beng"]),
   ("cs", ["Nand"]),
   ("ct", ["Cyrl", "Latn", "Syrc"]),
   ("cu", ["Syrc"]),
   ("cv", ["Latn", "Mong", "Phag"]),
   ("cw", ["Adlm", "Arab"]),
   ("cx", ["Cari", "Geor", "Glag", "Hung", "Lyci", "Orkh"]),
   ("cy", ["Cari", "Grek", "Hung", "Mero"]),
   ("cz", ["Deva", "Gran", "Latn"]),
   ("da", ["Copt", "Latn"]),
   ("db", ["Avst", "Orkh"]),
   ("dc", ["Avst", "Cari", "Geor", "Hung", "Kthi", "Lydi", "Samr"]),
   ("dd", ["Dupl"]),
   ("de", ["Adlm", "Arab", "Hung"]),
   ("df", ["Hani", "Tang"]),
   ("dg", ["Bopo", "Hang", "Hani", "Hira", "Kana", "Mong", "Yiii"]),
   ("dh", ["Bopo", "Hang", "Hani", "Hira", "Kana", "Mong", "Phag", "Yiii"]),
   ("di", ["Bopo", "Hang", "Hani", "Hira", "Kana"]),
   ("dj", ["Hani"]),
   ("dk", ["Bopo", "Hang", "Hani", "Hira", "Kana", "Mong", "Tibt", "Yiii"]),
   ("dl", ["Bopo", "Hang", "Hani", "Hira", "Kana", "Lisu", "Mong", "Tibt", "Yiii"]),
   ("dm", ["Bopo", "Hang", "Hani", "Hira", "Kana", "Yiii"]),
   ("dn", ["Bopo", "Hani"]),
   ("do", ["Hira", "Kana"]),
   ("dp", ["Hani", "Hira", "Kana"]),
   ("dq", ["Hani", "Latn"]),
   ("dr", ["Deva", "Dogr", "Gujr", "Guru", "Khoj", "Knda", "Kthi", "Mahj", "Mlym", "Modi",
      "Nand", "Shrd", "Sind", "Takr", "Tirh", "Tutg"]),
   ("ds", ["Deva", "Dogr", "Gujr", "Guru", "Khoj", "Knda", "Kthi", "Mahj", "Modi", "Nand",
      "Shrd", "Sind", "Takr", "Tirh", "Tutg"]),
   ("dt", ["Deva", "Dogr", "Gujr", "Guru", "Khoj", "Kthi", "Mahj", "Modi", "Sind", "Takr",
      "Tirh"]),
   ("du", ["Deva", "Dogr", "Gujr", "Guru", "Khoj", "Kthi", "Mahj", "Modi", "Shrd", "Sind",
      "Takr", "Tirh"]),
   ("dv", ["Beng", "Deva", "Tutg"]),
   ("dw", ["Deva", "Taml"]),
   ("dx", ["Kali", "Latn", "Mymr"]),
   ("dy", ["Bugi", "Java"]),
   ("dz", ["Arab", "Nkoo"]),
   ("ea", ["Arab", "Thaa"]),
   ("eb", ["Cpmn", "Cprt", "Linb"]),
   ("ec", ["Cprt", "Linb"]),
   ("ed", ["Cprt", "Lina", "Linb"]),
   ("ee", ["Arab", "Copt"]),
   ("ef", ["Mani", "Ougr"])]

/-- Groups from code point 0 on. A stretch without a group has only its own script. -/
def rows : List String :=
  ["183 aa1 516 ab1 10 ac1 1 ac3 1 ad1 9 ae1 1 ac1 38 af1 ag1 ah1 ai1 aj1 ak1 al1 am1 an1 ao1",
   "ap1 aq1 ar1 as1 at1 1 as1 au1 1 av1 12 aw1 2 ax1 ay1 aw1 7 az1 aw1 1 ba1 bb1 16 bc1 2 bc1 18",
   "bd1 5 be1 4 bf13 4 bg2 269 bh1 bi1 bj2 bi1 257 bk1 130 bl1 14 bl1 bm1 2 bn1 32 bo1 10 bp11",
   "10 bq10 6 bp1 99 br1 636 bs1 bt1 17 bu1 bv1 bw10 118 bx10 118 by10 118 bz10 246 ca14 242",
   "cb10 848 cc10 177 cd1 1519 ce3 71 cf2 203 cg2 1 cg1 1226 ch1 ci1 ch1 cj1 ci1 ck2 cl1 ck1 cl1",
   "cm1 ci1 cl2 ci2 cl1 ck1 ci7 cn1 ck1 ci2 ck1 ci4 co1 cp1 cq1 ck2 cr1 cp2 cs1 197 bc2 54 ct1 1",
   "cu1 564 cv1 31 cw1 10 cx1 2 cy1 146 cz1 3366 da1 24 db1 dc1 10 dd1 4 de1 1 bi1 428 df16 1",
   "dg1 dh1 di1 2 dj1 1 dk2 dl2 dm6 1 di1 dm8 di4 10 dn4 2 di1 do5 1 di1 4 dp2 dj2 89 do4 3 do1",
   "90 dm1 do1 147 dj16 32 dj38 9 df1 48 dj40 56 dj49 15 dj12 51 dj1 88 dj25 10 dj5 96 dj31",
   "29296 bi1 144 dq8 296 dr3 ds3 dt2 du1 dt1 183 dv1 1 dw1 58 dx1 160 dy1 21358 dz2 178 ea1 10",
   "ea1 71 di2 282 dm5 10 do1 45 do2 352 eb2 ec1 4 ed45 3 ec9 416 ee28 2038 ef1 2062 ca1 1 ca1",
   "55 ca2 3219 ca2 1 ca1 40140 dd4 5820 dj18 7902 dj2 986542"]

def stretches : List Stretch :=
  Stretch.ofRows rows

/-- The code points that a script uses: those it shares, and its own unless they are
given to other scripts. -/
def withCode (code : String) : CodePoints :=
  let uses := (groups.filter (·.2.contains code)).map (·.1)
  let shared := CodePoints.ofStretches uses.contains stretches
  let listed := CodePoints.ofStretches (· != "") stretches
  shared.union ((Script.withCode code).diff listed)

end HostConsole.Property.ScriptExtension
