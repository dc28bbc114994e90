import HostConsole.CodePoints.Stretches

/-! How each code point joins its neighbours within a sentence. -/

namespace HostConsole.Property.SentenceBreak

/-- Classes from code point 0 on. A stretch without a code has none. -/
def rows : List String :=
  ["9 SP1 LF1 SP2 CR1 18 SP1 ST1 CL1 4 CL3 2 SC2 AT1 1 NU10 SC2 3 ST1 1 UP26 CL1 1 CL1 3 LO26",
   "CL1 1 CL1 7 SE1 26 SP1 9 LO1 CL1 1 FO1 7 LO1 4 LO1 CL1 4 UP23 1 UP7 LO24 1 LO8 UP1 LO1 UP1",
   "LO1 UP1 LO1 UP1 LO1 UP1 LO1 UP1 LO1 UP1 LO1 UP1 LO1 UP1 LO1 UP1 LO1 UP1 LO1 UP1 LO1 UP1 LO1",
   "UP1 LO1 UP1 LO1 UP1 LO1 UP1 LO1 UP1 LO1 UP1 LO1 UP1 LO1 UP1 LO1 UP1 LO1 UP1 LO1 UP1 LO1 UP1",
   "LO1 UP1 LO1 UP1 LO1 UP1 LO2 UP1 LO1 UP1 LO1 UP1 LO1 UP1 LO1 UP1 LO1 UP1 LO1 UP1 LO1 UP1 LO2",
   "UP1 LO1 UP1 LO1 UP1 LO1 UP1 LO1 UP1 LO1 UP1 LO1 UP1 LO1 UP1 LO1 UP1 LO1 UP1 LO1 UP1 LO1 UP1",
   "LO1 UP1 LO1 UP1 LO1 UP1 LO1 UP1 LO1 UP1 LO1 UP1 LO1 UP1 LO1 UP1 LO1 UP1 LO1 UP1 LO1 UP1 LO1",
   "UP2 LO1 UP1 LO1 UP1 LO3 UP2 LO1 UP1 LO1 UP2 LO1 UP3 LO2 UP4 LO1 UP2 LO1 UP3 LO3 UP2 LO1 UP2",
   "LO1 UP1 LO1 UP1 LO1 UP2 LO1 UP1 LO2 UP1 LO1 UP2 LO1 UP3 LO1 UP1 LO1 UP2 LO2 LE1 UP1 LO3 LE4",
   "UP2 LO1 UP2 LO1 UP2 LO1 UP1 LO1 UP1 LO1 UP1 LO1 UP1 LO1 UP1 LO1 UP1 LO1 UP1 LO1 UP1 LO2 UP1",
   "LO1 UP1 LO1 UP1 LO1 UP1 LO1 UP1 LO1 UP1 LO1 UP1 LO1 UP1 LO1 UP1 LO2 UP2 LO1 UP1 LO1 UP3 LO1",
   "UP1 LO1 UP1 LO1 UP1 LO1 UP1 LO1 UP1 LO1 UP1 LO1 UP1 LO1 UP1 LO1 UP1 LO1 UP1 LO1 UP1 LO1 UP1",
   "LO1 UP1 LO1 UP1 LO1 UP1 LO1 UP1 LO1 UP1 LO1 UP1 LO1 UP1 LO1 UP1 LO1 UP1 LO1 UP1 LO1 UP1 LO1",
   "UP1 LO1 UP1 LO1 UP1 LO1 UP1 LO1 UP1 LO1 UP1 LO7 UP2 LO1 UP2 LO2 UP1 LO1 UP4 LO1 UP1 LO1 UP1",
   "LO1 UP1 LO1 UP1 LO69 LE1 LO36 LE7 LO2 4 LE12 14 LO5 7 LE1 1 LE1 17 EX112 UP1 LO1 UP1 LO1 LE1",
   "1 UP1 LO1 2 LO4 SC1 UP1 6 UP1 1 UP3 1 UP1 1 UP2 LO1 UP17 1 UP9 LO35 UP1 LO2 UP3 LO3 UP1 LO1",
   "UP1 LO1 UP1 LO1 UP1 LO1 UP1 LO1 UP1 LO1 UP1 LO1 UP1 LO1 UP1 LO1 UP1 LO1 UP1 LO1 UP1 LO5 UP1",
   "LO1 1 UP1 LO1 UP2 LO2 UP51 LO48 UP1 LO1 UP1 LO1 UP1 LO1 UP1 LO1 UP1 LO1 UP1 LO1 UP1 LO1 UP1",
   "LO1 UP1 LO1 UP1 LO1 UP1 LO1 UP1 LO1 UP1 LO1 UP1 LO1 UP1 LO1 UP1 LO1 UP1 LO1 1 EX7 UP1 LO1",
   "UP1 LO1 UP1 LO1 UP1 LO1 UP1 LO1 UP1 LO1 UP1 LO1 UP1 LO1 UP1 LO1 UP1 LO1 UP1 LO1 UP1 LO1 UP1",
   "LO1 UP1 LO1 UP1 LO1 UP1 LO1 UP1 LO1 UP1 LO1 UP1 LO1 UP1 LO1 UP1 LO1 UP1 LO1 UP1 LO1 UP1 LO1",
   "UP1 LO1 UP1 LO1 UP1 LO1 UP2 LO1 UP1 LO1 UP1 LO1 UP1 LO1 UP1 LO1 UP1 LO1 UP1 LO2 UP1 LO1 UP1",
   "LO1 UP1 LO1 UP1 LO1 UP1 LO1 UP1 LO1 UP1 LO1 UP1 LO1 UP1 LO1 UP1 LO1 UP1 LO1 UP1 LO1 UP1 LO1",
   "UP1 LO1 UP1 LO1 UP1 LO1 UP1 LO1 UP1 LO1 UP1 LO1 UP1 LO1 UP1 LO1 UP1 LO1 UP1 LO1 UP1 LO1 UP1",
   "LO1 UP1 LO1 UP1 LO1 UP1 LO1 UP1 LO1 UP1 LO1 UP1 LO1 UP1 LO1 UP1 LO1 UP1 LO1 UP1 LO1 UP1 LO1",
   "UP1 LO1 UP1 LO1 UP1 LO1 UP1 LO1 UP1 LO1 UP1 LO1 UP1 LO1 UP1 LO1 UP1 LO1 UP1 LO1 UP1 LO1 UP1",
   "LO1 1 UP38 2 LE1 3 SC1 2 LO41 ST1 7 EX45 1 EX1 1 EX2 1 EX2 1 EX1 8 LE27 4 LE5 12 NU6 6 SC2 2",
   "EX11 1 FO1 ST3 LE43 EX21 NU10 1 NU2 1 LE2 EX1 LE99 ST1 LE1 EX7 NU1 1 EX6 LE2 EX2 1 EX4 LE2",
   "NU10 LE3 2 LE1 ST3 12 FO1 LE1 EX1 LE30 EX27 2 LE89 EX11 LE1 14 NU10 LE33 EX9 LE2 2 SC1 ST1",
   "LE1 2 EX1 2 LE22 EX4 LE1 EX9 LE1 EX3 LE1 EX5 9 ST1 1 ST1 3 ST2 1 LE25 EX3 4 LE11 5 LE24 1",
   "LE6 1 NU2 5 EX9 LE42 EX24 NU1 EX33 LE54 EX3 LE1 EX18 LE1 EX7 LE10 EX2 ST2 NU10 1 LE16 EX3 1",
   "LE8 2 LE2 2 LE22 1 LE7 1 LE1 3 LE4 2 EX1 LE1 EX7 2 EX2 2 EX3 LE1 8 EX1 4 LE2 1 LE3 EX2 2",
   "NU10 LE2 10 LE1 1 EX1 2 EX3 1 LE6 4 LE2 2 LE22 1 LE7 1 LE2 1 LE2 1 LE2 2 EX1 1 EX5 4 EX2 2",
   "EX3 3 EX1 7 LE4 1 LE1 7 NU10 EX2 LE3 EX1 11 EX3 1 LE9 1 LE3 1 LE22 1 LE7 1 LE2 1 LE5 2 EX1",
   "LE1 EX8 1 EX3 1 EX3 2 LE1 15 LE2 EX2 2 NU10 9 LE1 EX6 1 EX3 1 LE8 2 LE2 2 LE22 1 LE7 1 LE2 1",
   "LE5 2 EX1 LE1 EX7 2 EX2 2 EX3 7 EX3 4 LE2 1 LE3 EX2 2 NU10 1 LE1 16 EX1 LE1 1 LE6 3 LE3 1",
   "LE4 3 LE2 1 LE1 1 LE2 3 LE2 3 LE3 3 LE12 4 EX5 3 EX3 1 EX4 2 LE1 6 EX1 14 NU10 16 EX5 LE8 1",
   "LE3 1 LE23 1 LE16 2 EX1 LE1 EX7 1 EX3 1 EX4 7 EX2 1 LE3 2 LE1 2 LE2 EX2 2 NU10 16 LE1 EX3 1",
   "LE8 1 LE3 1 LE23 1 LE10 1 LE5 2 EX1 LE1 EX7 1 EX3 1 EX4 7 EX2 6 LE2 1 LE2 EX2 2 NU10 1 LE2",
   "EX1 12 EX4 LE9 1 LE3 1 LE41 EX2 LE1 EX7 1 EX3 1 EX4 LE1 5 LE3 EX1 7 LE3 EX2 2 NU10 10 LE6 1",
   "EX3 1 LE18 3 LE24 1 LE9 1 LE1 2 LE7 3 EX1 4 EX6 1 EX1 1 EX8 6 NU10 2 EX2 13 LE48 EX1 LE2 EX7",
   "5 LE7 EX8 1 NU10 39 LE2 1 LE1 1 LE5 1 LE24 1 LE1 1 LE10 EX1 LE2 EX9 LE1 2 LE5 1 LE1 1 EX7 1",
   "NU10 2 LE4 32 LE1 23 EX2 6 NU10 11 EX1 1 EX1 1 EX1 CL4 EX2 LE8 1 LE36 4 EX20 1 EX2 LE5 EX11",
   "1 EX36 9 EX1 57 LE43 EX20 LE1 NU10 ST2 4 LE6 EX4 LE4 EX3 LE1 EX3 LE2 EX7 LE3 EX4 LE13 EX12",
   "LE1 EX1 NU10 EX4 2 UP38 1 UP1 5 UP1 2 LE43 1 LO1 LE332 1 LE4 2 LE7 1 LE1 1 LE4 2 LE41 1 LE4",
   "2 LE33 1 LE4 2 LE7 1 LE1 1 LE4 2 LE15 1 LE57 1 LE4 2 LE67 2 EX3 2 ST1 4 ST2 23 LE16 16 UP86",
   "2 LO6 3 LE620 1 ST1 LE17 SP1 LE26 CL2 3 LE75 3 LE11 7 LE18 EX4 9 LE19 EX3 ST2 9 LE18 EX2 12",
   "LE13 1 LE3 1 EX2 12 LE52 EX32 ST2 1 LE1 4 LE1 EX1 2 NU10 24 SC1 ST1 4 SC1 ST1 1 EX3 FO1 EX1",
   "NU10 6 LE89 7 LE5 EX2 LE34 EX1 LE1 5 LE70 10 LE31 1 EX12 4 EX12 8 ST2 NU10 LE30 2 LE5 11",
   "LE44 4 LE26 6 NU11 37 LE23 EX5 4 LE53 EX10 1 EX29 2 EX1 NU10 6 NU10 13 LE1 ST4 4 EX31 49 EX5",
   "LE47 EX17 LE8 1 ST2 NU10 ST2 2 ST2 11 EX9 9 ST3 EX3 LE30 EX13 LE2 NU10 LE44 EX14 12 LE36",
   "EX20 3 ST2 3 NU10 3 LE3 NU10 LE36 ST2 LO9 UP1 LO1 5 LE43 2 LE3 16 EX3 1 EX21 LE4 EX1 LE6 EX1",
   "LE2 EX3 LE1 5 LO192 EX64 UP1 LO1 UP1 LO1 UP1 LO1 UP1 LO1 UP1 LO1 UP1 LO1 UP1 LO1 UP1 LO1 UP1",
   "LO1 UP1 LO1 UP1 LO1 UP1 LO1 UP1 LO1 UP1 LO1 UP1 LO1 UP1 LO1 UP1 LO1 UP1 LO1 UP1 LO1 UP1 LO1",
   "UP1 LO1 UP1 LO1 UP1 LO1 UP1 LO1 UP1 LO1 UP1 LO1 UP1 LO1 UP1 LO1 UP1 LO1 UP1 LO1 UP1 LO1 UP1",
   "LO1 UP1 LO1 UP1 LO1 UP1 LO1 UP1 LO1 UP1 LO1 UP1 LO1 UP1 LO1 UP1 LO1 UP1 LO1 UP1 LO1 UP1 LO1",
   "UP1 LO1 UP1 LO1 UP1 LO1 UP1 LO1 UP1 LO1 UP1 LO1 UP1 LO1 UP1 LO1 UP1 LO1 UP1 LO1 UP1 LO1 UP1",
   "LO1 UP1 LO1 UP1 LO1 UP1 LO1 UP1 LO1 UP1 LO1 UP1 LO1 UP1 LO1 UP1 LO1 UP1 LO1 UP1 LO1 UP1 LO1",
   "UP1 LO1 UP1 LO1 UP1 LO1 UP1 LO1 UP1 LO1 UP1 LO1 UP1 LO1 UP1 LO1 UP1 LO9 UP1 LO1 UP1 LO1 UP1",
   "LO1 UP1 LO1 UP1 LO1 UP1 LO1 UP1 LO1 UP1 LO1 UP1 LO1 UP1 LO1 UP1 LO1 UP1 LO1 UP1 LO1 UP1 LO1",
   "UP1 LO1 UP1 LO1 UP1 LO1 UP1 LO1 UP1 LO1 UP1 LO1 UP1 LO1 UP1 LO1 UP1 LO1 UP1 LO1 UP1 LO1 UP1",
   "LO1 UP1 LO1 UP1 LO1 UP1 LO1 UP1 LO1 UP1 LO1 UP1 LO1 UP1 LO1 UP1 LO1 UP1 LO1 UP1 LO1 UP1 LO1",
   "UP1 LO1 UP1 LO1 UP1 LO1 UP1 LO1 UP1 LO1 UP1 LO1 UP1 LO1 UP1 LO1 UP1 LO1 UP1 LO1 UP1 LO1 UP1",
   "LO9 UP8 LO6 2 UP6 2 LO8 UP8 LO8 UP8 LO6 2 UP6 2 LO8 1 UP1 1 UP1 1 UP1 1 UP1 LO8 UP8 LO14 2",
   "LO8 UP8 LO8 UP8 LO8 UP8 LO5 1 LO2 UP5 1 LO1 3 LO3 1 LO2 UP5 3 LO4 2 LO2 UP4 4 LO8 UP5 5 LO3",
   "1 LO2 UP5 3 SP11 FO1 EX2 FO2 3 SC2 3 CL8 4 AT1 3 SE2 FO5 SP1 9 CL2 1 ST2 7 CL2 ST3 21 SP1",
   "FO5 1 FO10 1 LO1 11 CL2 LO1 13 CL2 1 LO13 51 EX33 17 UP1 4 UP1 2 LO1 UP3 LO2 UP3 LO1 1 UP1 3",
   "UP5 6 UP1 1 UP1 1 UP1 1 UP4 1 LO1 UP4 LO1 LE4 LO1 2 LO2 UP2 5 UP1 LO4 4 LO1 17 UP16 LO16 LE3",
   "UP1 LO1 LE4 383 CL4 29 CL2 395 UP26 LO26 625 CL6 7 CL14 79 CL2 31 CL10 403 CL22 63 CL4 32",
   "CL2 514 UP48 LO48 UP1 LO1 UP3 LO2 UP1 LO1 UP1 LO1 UP1 LO1 UP4 LO1 UP1 LO2 UP1 LO8 UP3 LO1",
   "UP1 LO1 UP1 LO1 UP1 LO1 UP1 LO1 UP1 LO1 UP1 LO1 UP1 LO1 UP1 LO1 UP1 LO1 UP1 LO1 UP1 LO1 UP1",
   "LO1 UP1 LO1 UP1 LO1 UP1 LO1 UP1 LO1 UP1 LO1 UP1 LO1 UP1 LO1 UP1 LO1 UP1 LO1 UP1 LO1 UP1 LO1",
   "UP1 LO1 UP1 LO1 UP1 LO1 UP1 LO1 UP1 LO1 UP1 LO1 UP1 LO1 UP1 LO1 UP1 LO1 UP1 LO1 UP1 LO1 UP1",
   "LO1 UP1 LO1 UP1 LO1 UP1 LO1 UP1 LO1 UP1 LO1 UP1 LO1 UP1 LO1 UP1 LO1 UP1 LO1 UP1 LO1 UP1 LO1",
   "UP1 LO1 UP1 LO1 UP1 LO2 6 UP1 LO1 UP1 LO1 EX3 UP1 LO1 5 ST3 4 LO38 1 LO1 5 LO1 2 LE56 7 LE1",
   "15 EX1 LE23 9 LE7 1 LE7 1 LE7 1 LE7 1 LE7 1 LE7 1 LE7 1 LE7 1 EX32 CL14 14 CL2 2 CL10 4 ST1",
   "LE1 12 ST1 5 CL1 16 ST2 CL8 419 SP1 SC1 ST1 2 LE3 CL10 2 CL8 1 CL3 1 LE9 EX6 1 LE5 2 LE5 4",
   "LE86 2 EX2 2 LE3 1 LE90 1 LE4 5 LE43 1 LE94 17 LE32 48 LE16 512 LE6592 64 LE22157 67 LE46 1",
   "ST1 LE269 1 ST2 LE16 NU10 LE2 20 UP1 LO1 UP1 LO1 UP1 LO1 UP1 LO1 UP1 LO1 UP1 LO1 UP1 LO1 UP1",
   "LO1 UP1 LO1 UP1 LO1 UP1 LO1 UP1 LO1 UP1 LO1 UP1 LO1 UP1 LO1 UP1 LO1 UP1 LO1 UP1 LO1 UP1 LO1",
   "UP1 LO1 UP1 LO1 UP1 LO1 UP1 LO1 LE1 EX4 1 EX10 1 LE1 UP1 LO1 UP1 LO1 UP1 LO1 UP1 LO1 UP1 LO1",
   "UP1 LO1 UP1 LO1 UP1 LO1 UP1 LO1 UP1 LO1 UP1 LO1 UP1 LO1 UP1 LO1 UP1 LO3 EX2 LE80 EX2 1 ST1 3",
   "ST1 31 LE9 2 UP1 LO1 UP1 LO1 UP1 LO1 UP1 LO1 UP1 LO1 UP1 LO1 UP1 LO3 UP1 LO1 UP1 LO1 UP1 LO1",
   "UP1 LO1 UP1 LO1 UP1 LO1 UP1 LO1 UP1 LO1 UP1 LO1 UP1 LO1 UP1 LO1 UP1 LO1 UP1 LO1 UP1 LO1 UP1",
   "LO1 UP1 LO1 UP1 LO1 UP1 LO1 UP1 LO1 UP1 LO1 UP1 LO1 UP1 LO1 UP1 LO1 UP1 LO1 UP1 LO1 UP1 LO1",
   "UP1 LO1 UP1 LO1 UP1 LO1 UP1 LO1 UP1 LO10 UP1 LO1 UP1 LO1 UP2 LO1 UP1 LO1 UP1 LO1 UP1 LO1 UP1",
   "LO1 LE1 2 UP1 LO1 UP1 LO1 LE1 UP1 LO1 UP1 LO3 UP1 LO1 UP1 LO1 UP1 LO1 UP1 LO1 UP1 LO1 UP1",
   "LO1 UP1 LO1 UP1 LO1 UP1 LO1 UP1 LO1 UP5 LO1 UP5 LO1 UP1 LO1 UP1 LO1 UP1 LO1 UP1 LO1 UP1 LO1",
   "UP1 LO1 UP1 LO1 UP4 LO1 UP1 LO1 UP2 LO1 2 UP1 LO1 1 LO1 1 LO1 UP1 LO1 UP1 LO1 UP1 LO1 UP1 21",
   "LO3 UP1 LO1 LE1 LO3 LE7 EX1 LE3 EX1 LE4 EX1 LE23 EX5 4 EX1 19 LE52 2 ST2 8 EX2 LE50 EX18 8",
   "ST2 NU10 6 EX18 LE6 3 LE1 1 LE2 EX1 NU10 LE28 EX8 1 ST1 LE23 EX13 12 LE29 3 EX4 LE47 EX14 7",
   "ST2 5 LE1 NU10 6 LE5 EX1 LE10 NU10 LE5 1 LE41 EX14 9 LE3 EX1 LE8 EX2 2 NU10 3 ST3 LE23 3 LE1",
   "EX3 LE50 EX1 LE1 EX3 LE2 EX2 LE5 EX2 LE1 EX1 LE1 24 LE3 2 LE11 EX5 ST2 LE3 EX2 10 LE6 2 LE6",
   "2 LE6 9 LE7 1 LE7 1 LO43 1 LO14 6 LO80 LE35 EX8 ST1 EX2 2 NU10 6 LE11172 12 LE23 4 LE49 8452",
   "LE366 2 LE106 38 LO7 12 LO5 5 LE1 EX1 LE10 1 LE13 1 LE5 1 LE1 1 LE2 1 LE2 1 LE108 33 LE363",
   "CL2 16 LE64 2 LE54 40 LE12 4 EX16 SC2 ST1 SC2 ST2 CL2 7 EX16 1 SC2 2 CL16 2 CL2 7 SC2 AT1 1",
   "SC2 ST2 SC1 CL6 4 SC1 12 LE5 1 LE135 2 FO1 1 ST1 6 CL2 2 SC2 AT1 1 NU10 SC2 3 ST1 1 UP26 CL1",
   "1 CL1 3 LO26 CL1 1 CL1 1 CL2 ST1 CL2 SC1 1 LE56 EX2 LE31 3 LE6 2 LE6 2 LE6 2 LE3 28 FO3 4",
   "LE12 1 LE26 1 LE19 1 LE2 1 LE15 2 LE14 34 LE123 69 LE53 136 EX1 130 LE29 3 LE49 15 EX1 31",
   "LE32 13 LE30 5 LE38 EX5 5 LE30 2 LE36 4 LE8 1 LE5 42 UP40 LO40 LE78 2 NU10 6 UP36 4 LO36 4",
   "LE40 8 LE52 12 UP11 1 UP15 1 UP7 1 UP2 1 LO11 1 LO15 1 LO7 1 LO2 3 LE52 12 LE311 9 LE22 10",
   "LE8 24 LO1 LE2 LO3 1 LO42 1 LO9 69 LE6 2 LE1 1 LE44 1 LE2 3 LE1 2 LE23 10 LE23 9 LE31 65",
   "LE19 1 LE2 10 LE22 10 LE26 70 LE56 6 LE2 64 LE1 EX3 1 EX2 5 EX4 LE4 1 LE3 1 LE29 2 EX3 4 EX1",
   "22 ST2 8 LE29 3 LE29 35 LE8 1 LE28 EX2 25 LE54 10 LE22 10 LE19 13 LE18 110 LE73 55 UP51 13",
   "LO51 13 LE36 EX4 8 NU10 6 NU10 LE6 UP22 3 EX5 1 LE1 LO22 250 LE42 1 EX2 3 LE2 16 LE3 55 EX4",
   "LE29 10 LE1 8 LE22 EX11 4 ST5 22 LE18 EX4 ST4 38 LE21 27 LE23 9 EX3 LE53 EX15 ST2 29 NU10",
   "EX1 LE2 EX2 LE1 9 EX4 LE45 EX11 2 NU1 ST4 EX1 10 NU1 2 LE25 7 NU10 6 EX3 LE36 EX14 1 NU10 1",
   "ST3 LE1 EX2 LE1 8 LE35 EX1 2 LE1 9 EX3 LE48 EX14 LE4 ST2 2 EX4 ST1 EX2 NU10 LE1 1 LE1 1 ST2",
   "32 LE18 1 LE25 EX12 ST2 1 ST2 1 EX1 LE2 EX1 62 LE7 1 LE1 1 LE4 1 LE15 1 LE10 ST1 6 LE47 EX12",
   "5 NU10 6 EX4 1 LE8 2 LE2 2 LE22 1 LE7 1 LE2 1 LE5 1 EX2 LE1 EX7 2 EX2 2 EX3 2 LE1 6 EX1 5",
   "LE5 EX2 2 EX7 3 EX5 11 LE10 1 LE1 2 LE1 1 LE38 1 LE1 EX9 1 EX1 2 EX1 1 EX4 1 EX5 LE1 EX1 LE1",
   "ST2 11 EX2 29 LE53 EX18 LE4 ST2 3 NU10 4 EX1 LE3 30 LE48 EX20 LE2 1 LE1 8 NU10 166 LE47 EX7",
   "2 EX9 1 ST2 5 ST15 LE4 EX2 34 LE48 EX17 ST2 1 LE1 11 NU10 38 LE43 EX13 LE1 7 NU10 6 NU20 28",
   "LE27 2 EX15 4 NU10 2 ST3 1 LE7 185 LE44 EX15 101 UP32 LO32 NU10 21 LE8 2 LE1 2 LE8 1 LE2 1",
   "LE24 EX6 1 EX2 2 EX4 LE1 EX1 LE1 EX2 ST1 1 ST1 9 NU10 70 LE8 2 LE39 EX7 2 EX7 LE1 1 LE1 EX1",
   "27 LE1 EX10 LE40 EX7 LE1 EX4 3 ST2 3 EX1 8 LE1 EX11 LE46 EX16 1 ST2 LE1 18 LE73 199 LE33 15",
   "NU10 6 LE9 1 LE37 EX8 1 EX8 LE1 ST2 13 NU10 24 LE30 2 EX22 1 EX14 73 LE7 1 LE2 1 LE38 EX6 3",
   "EX1 1 EX2 1 EX7 LE1 EX1 8 NU10 6 LE6 1 LE2 1 LE32 EX5 1 EX2 1 EX5 LE1 7 NU10 310 LE19 EX4",
   "ST2 7 EX2 LE1 EX1 LE13 1 LE34 EX7 3 EX5 ST2 11 NU10 EX1 85 LE1 79 LE922 102 LE111 17 LE196",
   "2636 LE97 15 LE1072 FO16 EX1 LE6 EX15 10 LE3995 5 LE583 6841 LE30 EX18 NU10 1734 LE569 7",
   "LE31 1 NU10 4 ST2 LE79 1 NU10 6 LE30 2 EX5 ST1 10 LE48 EX7 ST2 7 LE4 ST1 11 NU10 9 LE21 5",
   "LE19 432 LE45 1 ST2 NU10 198 UP32 LO32 24 ST1 103 LE75 4 EX1 LE1 EX55 7 EX4 LE13 64 LE2 1",
   "LE1 EX1 11 EX2 14 LE6136 8 LE1238 41 LE10 8935 LE4 1 LE7 1 LE2 1 LE291 15 LE1 29 LE3 2 LE1",
   "14 LE4 8 LE396 2308 LE107 5 LE13 3 LE9 7 LE10 3 EX2 ST1 FO4 4172 NU10 518 EX46 2 EX23 542",
   "EX5 3 EX6 FO8 EX8 2 EX7 30 EX4 148 EX3 443 UP26 LO26 UP26 LO7 1 LO18 UP26 LO26 UP1 1 UP2 2",
   "UP1 2 UP2 2 UP4 1 UP8 LO4 1 LO1 1 LO7 1 LO11 UP26 LO26 UP2 1 UP4 2 UP8 1 UP7 1 LO26 UP2 1",
   "UP4 1 UP5 1 UP1 3 UP7 1 LO26 UP26 LO26 UP26 LO26 UP26 LO26 UP26 LO26 UP26 LO26 UP26 LO28 2",
   "UP25 1 LO25 1 LO6 UP25 1 LO25 1 LO6 UP25 1 LO25 1 LO6 UP25 1 LO25 1 LO6 UP25 1 LO25 1 LO6",
   "UP1 LO1 2 NU50 512 EX55 4 EX50 8 EX1 14 EX1 3 ST1 18 EX5 1 EX15 1104 LO10 LE1 LO20 6 LO6 213",
   "EX7 1 EX17 2 EX7 1 EX2 1 EX5 5 LO62 33 EX1 112 LE45 3 EX7 LE7 2 NU10 4 LE1 321 LE30 EX1 17",
   "LE44 EX4 NU10 470 LE28 EX4 NU10 214 LE30 EX2 LE1 NU10 485 LE7 1 LE4 1 LE2 1 LE15 1 LE197 11",
   "EX7 41 UP34 LO34 EX7 LE1 4 NU10 1190 LE4 1 LE27 1 LE2 1 LE1 2 LE1 1 LE10 1 LE4 1 LE1 1 LE1 6",
   "LE1 4 LE1 1 LE1 1 LE1 1 LE3 1 LE2 1 LE1 2 LE1 1 LE1 1 LE1 1 LE1 1 LE1 1 LE2 1 LE1 2 LE4 1",
   "LE7 1 LE4 1 LE4 1 LE1 1 LE10 1 LE17 5 LE3 1 LE5 1 LE17 628 UP26 6 UP26 6 UP26 1260 CL3 1399",
   "NU10 1030 LE42720 32 LE4154 6 LE222 2 LE5762 14 LE7473 15 LE622 2466 LE542 1506 LE4939 5",
   "LE4192 711761 FO1 30 EX96 128 EX240 196112"]

def stretches : List Stretch :=
  Stretch.ofRows rows

def withCode (code : String) : CodePoints :=
  .ofStretches (· == code) stretches

def names : List (List String × String) :=
  [(["at", "aterm"], "AT"), (["cl", "close"], "CL"), (["cr"], "CR"), (["ex", "extend"], "EX"),
   (["fo", "format"], "FO"), (["le", "oletter"], "LE"), (["lf"], "LF"), (["lo", "lower"], "LO"),
   (["nu", "numeric"], "NU"), (["sc", "scontinue"], "SC"), (["se", "sep"], "SE"), (["sp"], "SP"),
   (["st", "sterm"], "ST"), (["up", "upper"], "UP")]

end HostConsole.Property.SentenceBreak
