import HostConsole.Property.Age
import HostConsole.Property.Derived
import HostConsole.Property.GraphemeBreak
import HostConsole.Property.ScriptExtension
import HostConsole.Property.SentenceBreak

/-! Properties of characters by name. -/

namespace HostConsole.Property

/-- A name as names are compared: ASCII in lower case, without separators and
without a leading `is`. -/
def normalize (name : List Char) : String :=
  let plain := fun cs : List Char =>
    (cs.filter fun c => c.toNat < 0x80 && !(c = ' ' || c = '_' || c = '-')).map Char.toLower
  match name with
  | i :: s :: rest =>
    if i.toLower = 'i' && s.toLower = 's' then
      let short := plain rest
      String.ofList (if short = ['c'] then ['i', 's', 'c'] else short)
    else String.ofList (plain name)
  | name => String.ofList (plain name)

/-- What a table of rows has under a name. -/
def row? {α : Type} (rows : List (List String × α)) (name : String) : Option α :=
  (rows.find? (·.1.contains name)).map (·.2)

/-! ### The names -/

/-- Properties that hold or do not, under all their names. -/
def flags : List (List String × CodePoints) :=
  [(["alpha", "alphabetic"], alphabetic), (["ahex", "asciihexdigit"], asciiHexDigit),
   (["bidic", "bidicontrol"], bidiControl), (["bidim", "bidimirrored"], bidiMirrored),
   (["ci", "caseignorable"], caseIgnorable), (["cased"], cased),
   (["cwcf", "changeswhencasefolded"], changesWhenCasefolded),
   (["cwcm", "changeswhencasemapped"], changesWhenCasemapped),
   (["cwl", "changeswhenlowercased"], changesWhenLowercased),
   (["cwt", "changeswhentitlecased"], changesWhenTitlecased),
   (["cwu", "changeswhenuppercased"], changesWhenUppercased), (["dash"], dash),
   (["di", "defaultignorablecodepoint"], defaultIgnorable),
   (["dep", "deprecated"], deprecated), (["dia", "diacritic"], diacritic), (["emoji"], emoji),
   (["ecomp", "emojicomponent"], emojiComponent), (["emod", "emojimodifier"], emojiModifier),
   (["ebase", "emojimodifierbase"], emojiModifierBase),
   (["epres", "emojipresentation"], emojiPresentation),
   (["extpict", "extendedpictographic"], extendedPictographic), (["ext", "extender"], extender),
   (["grbase", "graphemebase"], graphemeBase), (["grext", "graphemeextend"], graphemeExtend),
   (["grlink", "graphemelink"], graphemeLink), (["hex", "hexdigit"], hexDigit),
   (["hyphen"], hyphen), (["idcompatmathcontinue"], idCompatMathContinue),
   (["idcompatmathstart"], idCompatMathStart), (["idc", "idcontinue"], idContinue),
   (["ids", "idstart"], idStart), (["ideo", "ideographic"], ideographic),
   (["idsb", "idsbinaryoperator"], idsBinaryOperator),
   (["idst", "idstrinaryoperator"], idsTrinaryOperator),
   (["idsu", "idsunaryoperator"], idsUnaryOperator), (["joinc", "joincontrol"], joinControl),
   (["loe", "logicalorderexception"], logicalOrderException), (["lower", "lowercase"], lowercase),
   (["math"], math), (["mcm", "modifiercombiningmark"], modifierCombiningMark),
   (["nchar", "noncharactercodepoint"], noncharacterCodePoint),
   (["oalpha", "otheralphabetic"], otherAlphabetic),
   (["odi", "otherdefaultignorablecodepoint"], otherDefaultIgnorableCodePoint),
   (["ogrext", "othergraphemeextend"], otherGraphemeExtend),
   (["oidc", "otheridcontinue"], otherIdContinue), (["oids", "otheridstart"], otherIdStart),
   (["olower", "otherlowercase"], otherLowercase), (["omath", "othermath"], otherMath),
   (["oupper", "otheruppercase"], otherUppercase), (["patsyn", "patternsyntax"], patternSyntax),
   (["patws", "patternwhitespace"], patternWhiteSpace),
   (["pcm", "prependedconcatenationmark"], prependedConcatenationMark),
   (["qmark", "quotationmark"], quotationMark), (["radical"], radical),
   (["ri", "regionalindicator"], regionalIndicator),
   (["sterm", "sentenceterminal"], sentenceTerminal), (["sd", "softdotted"], softDotted),
   (["term", "terminalpunctuation"], terminalPunctuation),
   (["uideo", "unifiedideograph"], unifiedIdeograph), (["upper", "uppercase"], uppercase),
   (["vs", "variationselector"], variationSelector),
   (["space", "wspace", "whitespace"], whiteSpace), (["xidc", "xidcontinue"], xidContinue),
   (["xids", "xidstart"], xidStart)]

/-- How a property is given: by holding or not, or by one of its values. -/
inductive Kind where
  | flag (members : CodePoints)
  | category
  | script
  | scriptExtension
  | age
  | graphemeBreak
  | wordBreak
  | sentenceBreak
  | unlisted

/-- Properties that have values, under all their names. -/
def valued : List (List String × Kind) :=
  [(["gc", "generalcategory"], .category), (["sc", "script"], .script),
   (["scx", "scriptextensions"], .scriptExtension), (["age"], .age),
   (["gcb", "graphemeclusterbreak"], .graphemeBreak), (["wb", "wordbreak"], .wordBreak),
   (["sb", "sentencebreak"], .sentenceBreak)]

/-- Further names of properties, of which nothing is listed here. -/
def unlistedRows : List String :=
  ["bc bidiclass bidimirroringglyph bidipairedbracket bidipairedbrackettype blk block bmg bpb",
   "bpt canonicalcombiningclass casefolding ccc ce cf changeswhennfkccasefolded",
   "cjkaccountingnumeric cjkcompatibilityvariant cjkiicore cjkirggsource cjkirghsource",
   "cjkirgjsource cjkirgkpsource cjkirgksource cjkirgmsource cjkirgssource cjkirgtsource",
   "cjkirguksource cjkirgusource cjkirgvsource cjkothernumeric cjkprimarynumeric cjkrsunicode",
   "compex compositionexclusion cwkcf decompositionmapping decompositiontype dm dt ea",
   "eastasianwidth equideo equivalentunifiedideograph expandsonnfc expandsonnfd expandsonnfkc",
   "expandsonnfkd fcnfkc fcnfkcclosure fullcompositionexclusion hangulsyllabletype hst incb",
   "indicconjunctbreak indicpositionalcategory indicsyllabiccategory inpc insc isc jamoshortname",
   "jg joininggroup joiningtype jsn jt kaccountingnumeric kcompatibilityvariant kehcat kehdesc",
   "kehhg kehifao kehjsesh kehnomirror kehnorotate kiicore kirggsource kirghsource kirgjsource",
   "kirgkpsource kirgksource kirgmsource kirgssource kirgtsource kirguksource kirgusource",
   "kirgvsource kothernumeric kprimarynumeric krsunicode lb lc linebreak lowercasemapping na na1",
   "name namealias nfcqc nfcquickcheck nfdqc nfdquickcheck nfkccasefold nfkccf nfkcqc",
   "nfkcquickcheck nfkcscf nfkcsimplecasefold nfkdqc nfkdquickcheck nt numerictype numericvalue",
   "nv ocomment scf sfc simplecasefolding simplelowercasemapping simpletitlecasemapping",
   "simpleuppercasemapping slc stc suc tc titlecasemapping uc unicode1name unicoderadicalstroke",
   "uppercasemapping urs verticalorientation vo xonfc xonfd xonfkc xonfkd"]

def kind? (name : String) : Option Kind :=
  row? valued name <|> (row? flags name).map .flag <|>
    if unlistedRows.any fun row => (row.splitOn " ").contains name then some .unlisted else none

/-! ### Sets of characters by name -/

/-- What is not known of a property: its name, or the value asked for. -/
inductive Missing where
  | name
  | value
  deriving DecidableEq

/-- The set of a value. A value that no character has counts as not known. -/
def nonempty (s : Option CodePoints) : Except Missing CodePoints :=
  match s with
  | some s => if s.ranges.isEmpty then .error .value else .ok s
  | none => .error .value

/-- The set of a category, a group of categories, or one of three sets beside them. -/
def ofCategory? (name : String) : Option CodePoints :=
  match name with
  | "any" => some .scalars
  | "assigned" => some (Category.among ["Cn"]).complement
  | "ascii" => some (.range 0 0x7F)
  | name => (row? Category.names name).map Category.among

/-- Names that a property has too, but that stand for a category where they are alone. -/
def isCategoryFirst (name : String) : Bool :=
  ["cf", "lc", "sc"].contains name

/-- The characters that a name alone stands for: those with a property, or those in a
category or a script. -/
def ofName (name : List Char) : Except Missing CodePoints :=
  let name := normalize name
  match if isCategoryFirst name then none else kind? name with
  | some (.flag s) => .ok s
  | some _ => .error .name
  | none =>
    match ofCategory? name, row? Script.names name with
    | some s, _ => nonempty (some s)
    | none, some code => nonempty (some (Script.withCode code))
    | none, none => .error .name

/-- The characters for which a property has a value. -/
def ofValue (name value : List Char) : Except Missing CodePoints :=
  let value := normalize value
  match kind? (normalize name) with
  | none => .error .name
  | some .category => nonempty (ofCategory? value)
  | some .script => nonempty ((row? Script.names value).map Script.withCode)
  | some .scriptExtension => nonempty ((row? Script.names value).map ScriptExtension.withCode)
  | some .age => nonempty ((row? Age.versions value).map Age.withLetter)
  | some .graphemeBreak => nonempty ((row? GraphemeBreak.names value).map GraphemeBreak.withCode)
  | some .wordBreak => nonempty ((row? WordBreak.names value).map WordBreak.withCode)
  | some .sentenceBreak => nonempty ((row? SentenceBreak.names value).map SentenceBreak.withCode)
  | some (.flag _) | some .unlisted => .error .value

end HostConsole.Property
