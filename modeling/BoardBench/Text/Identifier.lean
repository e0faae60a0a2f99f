import BoardBench.Text.Symbol

namespace BoardBench.Text

open CodeSet

def otherIdentifierStart : CodeSet := ofRows ["1885-1886 2118 212E 309B-309C"]

def identifierStart : CodeSet :=
  (unions [letters, letterNumbers, otherIdentifierStart]).diff
    (patternSyntax.union patternWhiteSpace)

def otherIdentifierContinue : CodeSet := ofRows ["B7 387 1369-1371 19DA 200C-200D 30FB FF65"]

def identifierContinue : CodeSet :=
  (unions [identifierStart, nonspacingMarks, spacingMarks, decimalNumbers, connectorPunctuation,
    otherIdentifierContinue]).diff (patternSyntax.union patternWhiteSpace)

def unstableContinue : CodeSet := ofRows ["37A 309B-309C FC5E-FC63 FDFA-FDFB FE70-FE7E/2"]

def unstableStart : CodeSet := ofRows
  ["37A E33 EB3 309B-309C FC5E-FC63 FDFA-FDFB FE70-FE7E/2 FF9E-FF9F"]

def stableIdentifierStart : CodeSet := identifierStart.diff unstableStart

def stableIdentifierContinue : CodeSet := identifierContinue.diff unstableContinue

def mathIdentifierStart : CodeSet := ofRows
  ["2202 2207 221E 1D6C1 1D6DB 1D6FB 1D715 1D735 1D74F 1D76F 1D789 1D7A9 1D7C3"]

def otherMathIdentifierContinue : CodeSet := ofRows ["B2-B3 B9 2070 2074-207E 2080-208E"]

def mathIdentifierContinue : CodeSet := mathIdentifierStart.union otherMathIdentifierContinue

end BoardBench.Text
