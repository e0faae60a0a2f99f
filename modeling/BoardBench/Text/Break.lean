import BoardBench.Text.Mark
import BoardBench.Text.Symbol

namespace BoardBench.Text

open CodeSet

namespace Cluster

def extend : CodeSet := graphemeExtend.union emojiModifiers

def joiner : CodeSet := only 0x200D

def unspacedMarks : CodeSet := ofRows
  ["102B-102C 1038 1062-1064 1067-106D 1083 1087-108C 108F 109A-109C 1A61 1A63-1A64 AA7B AA7D",
   "11720-11721"]

def spacedVowels : CodeSet := ofRows ["E33 EB3"]

def spacingMark : CodeSet :=
  (spacingMarks.diff (extend.union unspacedMarks)).union spacedVowels

def control : CodeSet :=
  (unions [lineSeparators, paragraphSeparators, controls, formats,
    defaultIgnorable.inter unassigned]).diff
    (unions [prependedConcatenationMarks, extend, joiner, only 0x0D, only 0x0A])

def otherPrepend : CodeSet := ofRows
  ["D4E 111C2-111C3 113D1 1193F 11941 11A3A 11A84-11A89 11D46 11F02"]

def prepend : CodeSet := prependedConcatenationMarks.union otherPrepend

def leadingConsonants : CodeSet := ofRows ["1100-115F A960-A97C"]

def vowels : CodeSet := ofRows ["1160-11A7 D7B0-D7C6 16D63 16D67-16D6A"]

def trailingConsonants : CodeSet := ofRows ["11A8-11FF D7CB-D7FB"]

def openSyllables : CodeSet := ofRows ["AC00-D788/1C"]

def closedSyllables : CodeSet := (between 0xAC00 0xD7A3).diff openSyllables

end Cluster

namespace Word

def extend : CodeSet := unions [graphemeExtend, spacingMarks, emojiModifiers]

def otherNumeric : CodeSet := ofRows ["600-605 66B 6DD 890-891 8E2 19DA 110BD 110CD"]

def numeric : CodeSet := decimalNumbers.union otherNumeric

def format : CodeSet :=
  formats.diff
    (unions [prependedConcatenationMarks, graphemeExtend, joinControls, only 0x200B])

def hebrewLetter : CodeSet := ofRows
  ["5D0-5EA 5EF-5F2 FB1D FB1F-FB28 FB2A-FB36 FB38-FB3C FB3E FB40-FB41 FB43-FB44 FB46-FB4F"]

def katakana : CodeSet := ofRows
  ["3031-3035 309B-309C 30A0-30FA 30FC-30FF 31F0-31FF 32D0-32FE 3300-3357 FF66-FF9D",
   "1AFF0-1AFF3 1AFF5-1AFFB 1AFFD-1AFFE 1B000 1B120-1B122 1B155 1B164-1B167"]

def middleOfNumber : CodeSet := ofRows ["2C 3B 37E 589 60C-60D 66C 7F8 2044 FE50 FE54 FF0C FF1B"]

def connector : CodeSet := ofRows ["5F 202F 203F-2040 2054 FE33-FE34 FE4D-FE4F FF3F"]

def newline : CodeSet := ofRows ["B-C 85 2028-2029"]

def space : CodeSet := ofRows ["20 1680 2000-2006 2008-200A 205F 3000"]

def unspacedLetters : CodeSet := ofRows
  ["E01-E30 E32-E33 E40-E46 E81-E82 E84 E86-E8A E8C-EA3 EA5 EA7-EB0 EB2-EB3 EBD EC0-EC4 EC6",
   "EDC-EDF 1000-102A 103F 1050-1055 105A-105D 1061 1065-1066 106E-1070 1075-1081 108E",
   "1780-17B3 17D7 17DC 1950-196D 1970-1974 1980-19AB 19B0-19C9 1A20-1A54 1AA7 3041-3096",
   "309D-309F A9E0-A9E4 A9E6-A9EF A9FA-A9FE AA60-AA76 AA7A AA7E-AAAF AAB1 AAB5-AAB6 AAB9-AABD",
   "AAC0 AAC2 AADB-AADD 11700-1171A 11740-11746 1B001-1B11F 1B132 1B150-1B152"]

def otherLetter : CodeSet := ofRows
  ["2C2-2C5 2D2-2D7 2DE-2DF 2E5-2EB 2ED 2EF-2FF 55A-55C 55E 58A 5F3 70F A708-A716 A720-A721",
   "A789-A78A AB5B"]

def letter : CodeSet :=
  (alphabetic.diff
    (unions [ideographs, extend, katakana, hebrewLetter, unspacedLetters])).union otherLetter

end Word

namespace Sentence

def extend : CodeSet := unions [graphemeExtend, spacingMarks, joinControls]

def separator : CodeSet := ofRows ["85 2028-2029"]

def space : CodeSet := ofRows ["9 B-C 20 A0 1680 2000-200A 202F 205F 3000"]

def fullStop : CodeSet := ofRows ["2E 2024 FE52 FF0E"]

def continues : CodeSet := ofRows
  ["2C-2D 3A-3B 37E 55D 60C-60D 7F8 1802 1808 2013-2014 3001 FE10-FE11 FE13-FE14 FE31-FE32",
   "FE50-FE51 FE54-FE55 FE58 FE63 FF0C-FF0D FF1A-FF1B FF64"]

def otherNumeric : CodeSet := ofRows ["600-605 66B-66C 6DD 890-891 8E2 19DA 110BD 110CD"]

def numeric : CodeSet := decimalNumbers.union otherNumeric

def format : CodeSet := formats.diff (numeric.union extend)

def unicase : CodeSet := ofRows ["10D0-10FA 10FD-10FF"]

def lower : CodeSet := lowercase.diff (extend.union unicase)

def unicaseCapitals : CodeSet := ofRows ["1C90-1CBA 1CBD-1CBF"]

def upper : CodeSet := (uppercase.union titlecaseLetters).diff unicaseCapitals

def letter : CodeSet :=
  (alphabetic.diff (unions [lower, upper, extend])).union (only 0x5F3)

def wideQuotes : CodeSet := ofRows ["FF02 FF07"]

def otherClose : CodeSet := ofRows ["275B-2760 2E00-2E01 2E06-2E08 2E0B 1F676-1F678"]

def close : CodeSet :=
  ((unions [openPunctuation, closePunctuation, initialPunctuation, finalPunctuation,
    quotationMarks]).diff wideQuotes).union otherClose

def terminal : CodeSet := sentenceTerminals.diff fullStop

end Sentence

end BoardBench.Text
