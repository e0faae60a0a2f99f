import BoardBench.Regex.Ast
import BoardBench.Text.Age
import BoardBench.Text.Break
import BoardBench.Text.Identifier
import BoardBench.Text.Script

namespace BoardBench.Regex

open Text

abbrev NamedSets := List (List String × CodeSet)

def NamedSets.called? (sets : NamedSets) (name : String) : Option CodeSet :=
  (List.find? (fun s => s.1.contains name) sets).map (·.2)

def isNameCharacter (c : Char) : Bool := c.toNat < 0x80 && c ≠ ' ' && c ≠ '_' && c ≠ '-'

def plainName (name : String) : String :=
  let plain := fun cs : List Char => (cs.filter isNameCharacter).map Char.toLower
  match name.toList with
  | i :: s :: rest =>
      if i.toLower = 'i' && s.toLower = 's' then
        if plain rest = ['c'] then "isc" else String.ofList (plain rest)
      else String.ofList (plain name.toList)
  | cs => String.ofList (plain cs)

def binaryProperties : NamedSets :=
  [(["ahex", "asciihexdigit"], asciiHexDigits), (["alpha", "alphabetic"], alphabetic),
   (["bidic", "bidicontrol"], bidiControls), (["bidim", "bidimirrored"], bidiMirrored),
   (["cased"], cased), (["ci", "caseignorable"], caseIgnorable),
   (["cwcf", "changeswhencasefolded"], changesWhenCasefolded),
   (["cwcm", "changeswhencasemapped"], changesWhenCasemapped),
   (["cwl", "changeswhenlowercased"], changesWhenLowercased),
   (["cwt", "changeswhentitlecased"], changesWhenTitlecased),
   (["cwu", "changeswhenuppercased"], changesWhenUppercased), (["dash"], dashes),
   (["di", "defaultignorablecodepoint"], defaultIgnorable), (["dep", "deprecated"], deprecated),
   (["dia", "diacritic"], diacritics), (["ebase", "emojimodifierbase"], emojiModifierBases),
   (["ecomp", "emojicomponent"], emojiComponents), (["emod", "emojimodifier"], emojiModifiers),
   (["emoji"], emoji), (["epres", "emojipresentation"], emojiPresentation),
   (["ext", "extender"], extenders), (["extpict", "extendedpictographic"], extendedPictographic),
   (["grbase", "graphemebase"], graphemeBase), (["grext", "graphemeextend"], graphemeExtend),
   (["grlink", "graphemelink"], graphemeLinks), (["hex", "hexdigit"], hexDigits),
   (["hyphen"], hyphens), (["idcompatmathcontinue"], mathIdentifierContinue),
   (["idcompatmathstart"], mathIdentifierStart), (["idc", "idcontinue"], identifierContinue),
   (["ids", "idstart"], identifierStart), (["ideo", "ideographic"], ideographs),
   (["idsb", "idsbinaryoperator"], ideographicBinaryOperators),
   (["idst", "idstrinaryoperator"], ideographicTrinaryOperators),
   (["idsu", "idsunaryoperator"], ideographicUnaryOperators),
   (["joinc", "joincontrol"], joinControls),
   (["loe", "logicalorderexception"], logicalOrderExceptions), (["lower", "lowercase"], lowercase),
   (["math"], math), (["mcm", "modifiercombiningmark"], modifierCombiningMarks),
   (["nchar", "noncharactercodepoint"], noncharacters),
   (["oalpha", "otheralphabetic"], otherAlphabetic),
   (["odi", "otherdefaultignorablecodepoint"], otherDefaultIgnorable),
   (["ogrext", "othergraphemeextend"], otherGraphemeExtend),
   (["oidc", "otheridcontinue"], otherIdentifierContinue),
   (["oids", "otheridstart"], otherIdentifierStart),
   (["olower", "otherlowercase"], otherLowercase), (["omath", "othermath"], otherMath),
   (["oupper", "otheruppercase"], otherUppercase), (["patsyn", "patternsyntax"], patternSyntax),
   (["patws", "patternwhitespace"], patternWhiteSpace),
   (["pcm", "prependedconcatenationmark"], prependedConcatenationMarks),
   (["qmark", "quotationmark"], quotationMarks), (["radical"], radicals),
   (["ri", "regionalindicator"], regionalIndicators), (["sd", "softdotted"], softDotted),
   (["sterm", "sentenceterminal"], sentenceTerminals),
   (["term", "terminalpunctuation"], terminalPunctuation),
   (["uideo", "unifiedideograph"], unifiedIdeographs), (["upper", "uppercase"], uppercase),
   (["vs", "variationselector"], variationSelectors), (["wspace", "whitespace", "space"], whiteSpace),
   (["xidc", "xidcontinue"], stableIdentifierContinue), (["xids", "xidstart"], stableIdentifierStart)]

def generalCategories : NamedSets :=
  [(["any"], CodeSet.empty.compl), (["ascii"], .ascii), (["assigned"], assigned),
   (["lu", "uppercaseletter"], uppercaseLetters), (["ll", "lowercaseletter"], lowercaseLetters),
   (["lt", "titlecaseletter"], titlecaseLetters), (["lc", "casedletter"], casedLetters),
   (["lm", "modifierletter"], modifierLetters), (["lo", "otherletter"], otherLetters),
   (["l", "letter"], letters), (["mn", "nonspacingmark"], nonspacingMarks),
   (["mc", "spacingmark"], spacingMarks), (["me", "enclosingmark"], enclosingMarks),
   (["m", "mark", "combiningmark"], marks), (["nd", "decimalnumber", "digit"], decimalNumbers),
   (["nl", "letternumber"], letterNumbers), (["no", "othernumber"], otherNumbers),
   (["n", "number"], numbers), (["pc", "connectorpunctuation"], connectorPunctuation),
   (["pd", "dashpunctuation"], dashPunctuation), (["ps", "openpunctuation"], openPunctuation),
   (["pe", "closepunctuation"], closePunctuation),
   (["pi", "initialpunctuation"], initialPunctuation),
   (["pf", "finalpunctuation"], finalPunctuation), (["po", "otherpunctuation"], otherPunctuation),
   (["p", "punct", "punctuation"], punctuation), (["sm", "mathsymbol"], mathSymbols),
   (["sc", "currencysymbol"], currencySymbols), (["sk", "modifiersymbol"], modifierSymbols),
   (["so", "othersymbol"], otherSymbols), (["s", "symbol"], symbols),
   (["zs", "spaceseparator"], spaceSeparators), (["zl", "lineseparator"], lineSeparators),
   (["zp", "paragraphseparator"], paragraphSeparators), (["z", "separator"], separators),
   (["cc", "control", "cntrl"], controls), (["cf", "format"], formats),
   (["co", "privateuse"], privateUse), (["cn", "unassigned"], unassigned),
   (["c", "other"], otherCategories)]

def clusterBreaks : NamedSets :=
  [(["cr"], .only 0x0D), (["lf"], .only 0x0A), (["cn", "control"], Cluster.control),
   (["ex", "extend"], Cluster.extend), (["l"], Cluster.leadingConsonants),
   (["v"], Cluster.vowels), (["t"], Cluster.trailingConsonants),
   (["lv"], Cluster.openSyllables), (["lvt"], Cluster.closedSyllables),
   (["pp", "prepend"], Cluster.prepend), (["ri", "regionalindicator"], regionalIndicators),
   (["sm", "spacingmark"], Cluster.spacingMark), (["zwj"], Cluster.joiner)]

def wordBreaks : NamedSets :=
  [(["cr"], .only 0x0D), (["lf"], .only 0x0A), (["nl", "newline"], Word.newline),
   (["extend"], Word.extend), (["fo", "format"], Word.format), (["ka", "katakana"], Word.katakana),
   (["hl", "hebrewletter"], Word.hebrewLetter), (["le", "aletter"], Word.letter),
   (["sq", "singlequote"], .only 0x27), (["dq", "doublequote"], .only 0x22),
   (["mb", "midnumlet"], wordMiddles), (["ml", "midletter"], wordMiddleLetters),
   (["mn", "midnum"], Word.middleOfNumber), (["nu", "numeric"], Word.numeric),
   (["ex", "extendnumlet"], Word.connector), (["ri", "regionalindicator"], regionalIndicators),
   (["wsegspace"], Word.space), (["zwj"], .only 0x200D)]

def sentenceBreaks : NamedSets :=
  [(["cr"], .only 0x0D), (["lf"], .only 0x0A), (["ex", "extend"], Sentence.extend),
   (["se", "sep"], Sentence.separator), (["fo", "format"], Sentence.format),
   (["sp"], Sentence.space), (["lo", "lower"], Sentence.lower), (["up", "upper"], Sentence.upper),
   (["le", "oletter"], Sentence.letter), (["nu", "numeric"], Sentence.numeric),
   (["at", "aterm"], Sentence.fullStop), (["sc", "scontinue"], Sentence.continues),
   (["st", "sterm"], Sentence.terminal), (["cl", "close"], Sentence.close)]

def scriptSet? (name : String) : Option CodeSet := (Script.find? name).map (·.codes)

def editionOf (name : String) : String :=
  match ages.find? fun a => String.ofList ('v' :: a.1.toList.filter (· ≠ '.')) = name with
  | some a => a.1
  | none => name

def valuedSet? (property value : String) : Option CodeSet :=
  match property with
  | "gc" | "generalcategory" => generalCategories.called? value
  | "sc" | "script" => scriptSet? value
  | "scx" | "scriptextensions" => (Script.find? value).map (·.extended)
  | "age" => charactersOf? (editionOf value)
  | "gcb" | "graphemeclusterbreak" => clusterBreaks.called? value
  | "wb" | "wordbreak" => wordBreaks.called? value
  | "sb" | "sentencebreak" => sentenceBreaks.called? value
  | _ => none

def propertySet? : PropertyQuery → Option CodeSet
  | .named name =>
      let n := plainName name
      binaryProperties.called? n <|> generalCategories.called? n <|> scriptSet? n
  | .valued name value => valuedSet? (plainName name) (plainName value)

def isWord (c : Char) : Bool :=
  if c.toNat < 0x80 then c.isAlphanum || c = '_' else wordCharacters.hasChar c

end BoardBench.Regex
