import Audience.Text.CaseChange
import Audience.Text.Emoji
import Audience.Text.Grapheme
import Audience.Text.Identifier
import Audience.Text.Letter
import Audience.Text.Sign

/-!
# Named properties

The Unicode properties that hold of a code point or do not, each under its names. `property?` finds
one by a name without separators and in lower case.
-/

namespace Audience.Text

/-- All properties that hold or do not, with their names. -/
def propertyTables : List (List String × Table Bool) :=
  [(["alphabetic", "alpha"], alphabeticTable),
    (["otheralphabetic", "oalpha"], otherAlphabeticTable), (["uppercase", "upper"], uppercaseTable),
    (["otheruppercase", "oupper"], otherUppercaseTable), (["lowercase", "lower"], lowercaseTable),
    (["otherlowercase", "olower"], otherLowercaseTable), (["cased"], casedTable),
    (["caseignorable", "ci"], caseIgnorableTable), (["softdotted", "sd"], softDottedTable),
    (["changeswhenlowercased", "cwl"], changesWhenLowercasedTable),
    (["changeswhenuppercased", "cwu"], changesWhenUppercasedTable),
    (["changeswhentitlecased", "cwt"], changesWhenTitlecasedTable),
    (["changeswhencasefolded", "cwcf"], changesWhenCasefoldedTable),
    (["changeswhencasemapped", "cwcm"], changesWhenCasemappedTable),
    (["graphemebase", "grbase"], graphemeBaseTable),
    (["graphemeextend", "grext"], graphemeExtendTable),
    (["othergraphemeextend", "ogrext"], otherGraphemeExtendTable),
    (["graphemelink", "grlink"], graphemeLinkTable),
    (["modifiercombiningmark", "mcm"], modifierCombiningMarkTable),
    (["prependedconcatenationmark", "pcm"], prependedConcatenationMarkTable),
    (["diacritic", "dia"], diacriticTable), (["extender", "ext"], extenderTable),
    (["joincontrol", "joinc"], joinControlTable),
    (["variationselector", "vs"], variationSelectorTable),
    (["logicalorderexception", "loe"], logicalOrderExceptionTable),
    (["idstart", "ids"], idStartTable), (["otheridstart", "oids"], otherIdStartTable),
    (["idcontinue", "idc"], idContinueTable), (["otheridcontinue", "oidc"], otherIdContinueTable),
    (["xidstart", "xids"], xidStartTable), (["xidcontinue", "xidc"], xidContinueTable),
    (["idcompatmathstart"], idCompatMathStartTable),
    (["idcompatmathcontinue"], idCompatMathContinueTable),
    (["patternsyntax", "patsyn"], patternSyntaxTable),
    (["patternwhitespace", "patws"], patternWhiteSpaceTable), (["emoji"], emojiTable),
    (["emojipresentation", "epres"], emojiPresentationTable),
    (["emojimodifier", "emod"], emojiModifierTable),
    (["emojimodifierbase", "ebase"], emojiModifierBaseTable),
    (["emojicomponent", "ecomp"], emojiComponentTable),
    (["extendedpictographic", "extpict"], extendedPictographicTable),
    (["regionalindicator", "ri"], regionalIndicatorTable),
    (["ideographic", "ideo"], ideographicTable),
    (["unifiedideograph", "uideo"], unifiedIdeographTable), (["radical"], radicalTable),
    (["idsunaryoperator", "idsu"], idsUnaryOperatorTable),
    (["idsbinaryoperator", "idsb"], idsBinaryOperatorTable),
    (["idstrinaryoperator", "idst"], idsTrinaryOperatorTable),
    (["whitespace", "space", "wspace"], whiteSpaceTable),
    (["asciihexdigit", "ahex"], asciiHexDigitTable), (["hexdigit", "hex"], hexDigitTable),
    (["math"], mathTable), (["othermath", "omath"], otherMathTable), (["dash"], dashTable),
    (["hyphen"], hyphenTable), (["quotationmark", "qmark"], quotationMarkTable),
    (["terminalpunctuation", "term"], terminalPunctuationTable),
    (["sentenceterminal", "sterm"], sentenceTerminalTable),
    (["bidicontrol", "bidic"], bidiControlTable), (["bidimirrored", "bidim"], bidiMirroredTable),
    (["defaultignorablecodepoint", "di"], defaultIgnorableCodePointTable),
    (["otherdefaultignorablecodepoint", "odi"], otherDefaultIgnorableCodePointTable),
    (["noncharactercodepoint", "nchar"], noncharacterCodePointTable),
    (["deprecated", "dep"], deprecatedTable)]

/-- The property that a normalised name stands for. -/
def property? (name : String) : Option (Table Bool) :=
  (propertyTables.find? (·.1.contains name)).map (·.2)

end Audience.Text
