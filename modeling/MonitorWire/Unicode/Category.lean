import MonitorWire.Unicode.Table

namespace MonitorWire

namespace Unicode

inductive Category where
  | uppercaseLetter
  | lowercaseLetter
  | titlecaseLetter
  | modifierLetter
  | otherLetter
  | nonspacingMark
  | spacingMark
  | enclosingMark
  | decimalNumber
  | letterNumber
  | otherNumber
  | connectorPunctuation
  | dashPunctuation
  | openPunctuation
  | closePunctuation
  | initialPunctuation
  | finalPunctuation
  | otherPunctuation
  | mathSymbol
  | currencySymbol
  | modifierSymbol
  | otherSymbol
  | spaceSeparator
  | lineSeparator
  | paragraphSeparator
  | control
  | format
  | surrogate
  | privateUse
  | unassigned
  deriving DecidableEq, Repr, Inhabited

namespace Category

def all : List Category := [.uppercaseLetter, .lowercaseLetter, .titlecaseLetter, .modifierLetter, .otherLetter, .nonspacingMark, .spacingMark, .enclosingMark, .decimalNumber, .letterNumber, .otherNumber, .connectorPunctuation, .dashPunctuation, .openPunctuation, .closePunctuation, .initialPunctuation, .finalPunctuation, .otherPunctuation, .mathSymbol, .currencySymbol, .modifierSymbol, .otherSymbol, .spaceSeparator, .lineSeparator, .paragraphSeparator, .control, .format, .surrogate, .privateUse, .unassigned]

def code : Category → String
  | .uppercaseLetter => "Lu"
  | .lowercaseLetter => "Ll"
  | .titlecaseLetter => "Lt"
  | .modifierLetter => "Lm"
  | .otherLetter => "Lo"
  | .nonspacingMark => "Mn"
  | .spacingMark => "Mc"
  | .enclosingMark => "Me"
  | .decimalNumber => "Nd"
  | .letterNumber => "Nl"
  | .otherNumber => "No"
  | .connectorPunctuation => "Pc"
  | .dashPunctuation => "Pd"
  | .openPunctuation => "Ps"
  | .closePunctuation => "Pe"
  | .initialPunctuation => "Pi"
  | .finalPunctuation => "Pf"
  | .otherPunctuation => "Po"
  | .mathSymbol => "Sm"
  | .currencySymbol => "Sc"
  | .modifierSymbol => "Sk"
  | .otherSymbol => "So"
  | .spaceSeparator => "Zs"
  | .lineSeparator => "Zl"
  | .paragraphSeparator => "Zp"
  | .control => "Cc"
  | .format => "Cf"
  | .surrogate => "Cs"
  | .privateUse => "Co"
  | .unassigned => "Cn"

def name : Category → String
  | .uppercaseLetter => "Uppercase_Letter"
  | .lowercaseLetter => "Lowercase_Letter"
  | .titlecaseLetter => "Titlecase_Letter"
  | .modifierLetter => "Modifier_Letter"
  | .otherLetter => "Other_Letter"
  | .nonspacingMark => "Nonspacing_Mark"
  | .spacingMark => "Spacing_Mark"
  | .enclosingMark => "Enclosing_Mark"
  | .decimalNumber => "Decimal_Number"
  | .letterNumber => "Letter_Number"
  | .otherNumber => "Other_Number"
  | .connectorPunctuation => "Connector_Punctuation"
  | .dashPunctuation => "Dash_Punctuation"
  | .openPunctuation => "Open_Punctuation"
  | .closePunctuation => "Close_Punctuation"
  | .initialPunctuation => "Initial_Punctuation"
  | .finalPunctuation => "Final_Punctuation"
  | .otherPunctuation => "Other_Punctuation"
  | .mathSymbol => "Math_Symbol"
  | .currencySymbol => "Currency_Symbol"
  | .modifierSymbol => "Modifier_Symbol"
  | .otherSymbol => "Other_Symbol"
  | .spaceSeparator => "Space_Separator"
  | .lineSeparator => "Line_Separator"
  | .paragraphSeparator => "Paragraph_Separator"
  | .control => "Control"
  | .format => "Format"
  | .surrogate => "Surrogate"
  | .privateUse => "Private_Use"
  | .unassigned => "Unassigned"

def ofCode? : String → Option Category
  | "Lu" => some .uppercaseLetter
  | "Ll" => some .lowercaseLetter
  | "Lt" => some .titlecaseLetter
  | "Lm" => some .modifierLetter
  | "Lo" => some .otherLetter
  | "Mn" => some .nonspacingMark
  | "Mc" => some .spacingMark
  | "Me" => some .enclosingMark
  | "Nd" => some .decimalNumber
  | "Nl" => some .letterNumber
  | "No" => some .otherNumber
  | "Pc" => some .connectorPunctuation
  | "Pd" => some .dashPunctuation
  | "Ps" => some .openPunctuation
  | "Pe" => some .closePunctuation
  | "Pi" => some .initialPunctuation
  | "Pf" => some .finalPunctuation
  | "Po" => some .otherPunctuation
  | "Sm" => some .mathSymbol
  | "Sc" => some .currencySymbol
  | "Sk" => some .modifierSymbol
  | "So" => some .otherSymbol
  | "Zs" => some .spaceSeparator
  | "Zl" => some .lineSeparator
  | "Zp" => some .paragraphSeparator
  | "Cc" => some .control
  | "Cf" => some .format
  | "Cs" => some .surrogate
  | "Co" => some .privateUse
  | "Cn" => some .unassigned
  | _ => none

def isLetter : Category → Bool
  | .uppercaseLetter | .lowercaseLetter | .titlecaseLetter | .modifierLetter | .otherLetter => true
  | _ => false

def isMark : Category → Bool
  | .nonspacingMark | .spacingMark | .enclosingMark => true
  | _ => false

def isNumber : Category → Bool
  | .decimalNumber | .letterNumber | .otherNumber => true
  | _ => false

end Category

def categoryText : String :=
  "W:Cc 1:Zs 3:Po 1:Sc 3:Po 1:Ps 1:Pe 1:Po 1:Sm 1:Po 1:Pd 2:Po A:Nd 2:Po 3:Sm 2:Po Q:Lu 1:Ps 1:Po "
  ++ "1:Pe 1:Sk 1:Pc 1:Sk Q:Ll 1:Ps 1:Sm 1:Pe 1:Sm X:Cc 1:Zs 1:Po 4:Sc 1:So 1:Po 1:Sk 1:So 1:Lo 1:Pi "
  ++ "1:Sm 1:Cf 1:So 1:Sk 1:So 1:Sm 2:No 1:Sk 1:Ll 2:Po 1:Sk 1:No 1:Lo 1:Pf 3:No 1:Po N:Lu 1:Sm 7:Lu "
  ++ "O:Ll 1:Sm 8:Ll 1:Lu 1:Ll 1:Lu 1:Ll 1:Lu 1:Ll 1:Lu 1:Ll 1:Lu 1:Ll 1:Lu 1:Ll 1:Lu 1:Ll 1:Lu 1:Ll "
  ++ "1:Lu 1:Ll 1:Lu 1:Ll 1:Lu 1:Ll 1:Lu 1:Ll 1:Lu 1:Ll 1:Lu 1:Ll 1:Lu 1:Ll 1:Lu 1:Ll 1:Lu 1:Ll 1:Lu "
  ++ "1:Ll 1:Lu 1:Ll 1:Lu 1:Ll 1:Lu 1:Ll 1:Lu 1:Ll 1:Lu 1:Ll 1:Lu 1:Ll 1:Lu 1:Ll 1:Lu 1:Ll 1:Lu 1:Ll "
  ++ "1:Lu 2:Ll 1:Lu 1:Ll 1:Lu 1:Ll 1:Lu 1:Ll 1:Lu 1:Ll 1:Lu 1:Ll 1:Lu 1:Ll 1:Lu 1:Ll 1:Lu 2:Ll 1:Lu "
  ++ "1:Ll 1:Lu 1:Ll 1:Lu 1:Ll 1:Lu 1:Ll 1:Lu 1:Ll 1:Lu 1:Ll 1:Lu 1:Ll 1:Lu 1:Ll 1:Lu 1:Ll 1:Lu 1:Ll "
  ++ "1:Lu 1:Ll 1:Lu 1:Ll 1:Lu 1:Ll 1:Lu 1:Ll 1:Lu 1:Ll 1:Lu 1:Ll 1:Lu 1:Ll 1:Lu 1:Ll 1:Lu 1:Ll 1:Lu "
  ++ "1:Ll 1:Lu 1:Ll 1:Lu 1:Ll 1:Lu 1:Ll 2:Lu 1:Ll 1:Lu 1:Ll 1:Lu 3:Ll 2:Lu 1:Ll 1:Lu 1:Ll 2:Lu 1:Ll "
  ++ "3:Lu 2:Ll 4:Lu 1:Ll 2:Lu 1:Ll 3:Lu 3:Ll 2:Lu 1:Ll 2:Lu 1:Ll 1:Lu 1:Ll 1:Lu 1:Ll 2:Lu 1:Ll 1:Lu "
  ++ "2:Ll 1:Lu 1:Ll 2:Lu 1:Ll 3:Lu 1:Ll 1:Lu 1:Ll 2:Lu 2:Ll 1:Lo 1:Lu 3:Ll 4:Lo 1:Lu 1:Lt 1:Ll 1:Lu "
  ++ "1:Lt 1:Ll 1:Lu 1:Lt 1:Ll 1:Lu 1:Ll 1:Lu 1:Ll 1:Lu 1:Ll 1:Lu 1:Ll 1:Lu 1:Ll 1:Lu 1:Ll 1:Lu 1:Ll "
  ++ "1:Lu 2:Ll 1:Lu 1:Ll 1:Lu 1:Ll 1:Lu 1:Ll 1:Lu 1:Ll 1:Lu 1:Ll 1:Lu 1:Ll 1:Lu 1:Ll 1:Lu 1:Ll 1:Lu "
  ++ "2:Ll 1:Lu 1:Lt 1:Ll 1:Lu 1:Ll 3:Lu 1:Ll 1:Lu 1:Ll 1:Lu 1:Ll 1:Lu 1:Ll 1:Lu 1:Ll 1:Lu 1:Ll 1:Lu "
  ++ "1:Ll 1:Lu 1:Ll 1:Lu 1:Ll 1:Lu 1:Ll 1:Lu 1:Ll 1:Lu 1:Ll 1:Lu 1:Ll 1:Lu 1:Ll 1:Lu 1:Ll 1:Lu 1:Ll "
  ++ "1:Lu 1:Ll 1:Lu 1:Ll 1:Lu 1:Ll 1:Lu 1:Ll 1:Lu 1:Ll 1:Lu 1:Ll 1:Lu 1:Ll 1:Lu 1:Ll 1:Lu 1:Ll 1:Lu "
  ++ "1:Ll 1:Lu 1:Ll 1:Lu 1:Ll 1:Lu 1:Ll 1:Lu 7:Ll 2:Lu 1:Ll 2:Lu 2:Ll 1:Lu 1:Ll 4:Lu 1:Ll 1:Lu 1:Ll "
  ++ "1:Lu 1:Ll 1:Lu 1:Ll 1:Lu 1X:Ll 2:Lo Q:Ll I:Lm 4:Sk C:Lm E:Sk 5:Lm 7:Sk 1:Lm 1:Sk 1:Lm H:Sk "
  ++ "34:Mn 1:Lu 1:Ll 1:Lu 1:Ll 1:Lm 1:Sk 1:Lu 1:Ll 2:Cn 1:Lm 3:Ll 1:Po 1:Lu 4:Cn 2:Sk 1:Lu 1:Po 3:Lu "
  ++ "1:Cn 1:Lu 1:Cn 2:Lu 1:Ll H:Lu 1:Cn 9:Lu Z:Ll 1:Lu 2:Ll 3:Lu 3:Ll 1:Lu 1:Ll 1:Lu 1:Ll 1:Lu 1:Ll "
  ++ "1:Lu 1:Ll 1:Lu 1:Ll 1:Lu 1:Ll 1:Lu 1:Ll 1:Lu 1:Ll 1:Lu 1:Ll 1:Lu 1:Ll 1:Lu 1:Ll 1:Lu 5:Ll 1:Lu "
  ++ "1:Ll 1:Sm 1:Lu 1:Ll 2:Lu 2:Ll 1F:Lu 1C:Ll 1:Lu 1:Ll 1:Lu 1:Ll 1:Lu 1:Ll 1:Lu 1:Ll 1:Lu 1:Ll "
  ++ "1:Lu 1:Ll 1:Lu 1:Ll 1:Lu 1:Ll 1:Lu 1:Ll 1:Lu 1:Ll 1:Lu 1:Ll 1:Lu 1:Ll 1:Lu 1:Ll 1:Lu 1:Ll 1:Lu "
  ++ "1:Ll 1:Lu 1:Ll 1:Lu 1:Ll 1:So 5:Mn 2:Me 1:Lu 1:Ll 1:Lu 1:Ll 1:Lu 1:Ll 1:Lu 1:Ll 1:Lu 1:Ll 1:Lu "
  ++ "1:Ll 1:Lu 1:Ll 1:Lu 1:Ll 1:Lu 1:Ll 1:Lu 1:Ll 1:Lu 1:Ll 1:Lu 1:Ll 1:Lu 1:Ll 1:Lu 1:Ll 1:Lu 1:Ll "
  ++ "1:Lu 1:Ll 1:Lu 1:Ll 1:Lu 1:Ll 1:Lu 1:Ll 1:Lu 1:Ll 1:Lu 1:Ll 1:Lu 1:Ll 1:Lu 1:Ll 1:Lu 1:Ll 1:Lu "
  ++ "1:Ll 1:Lu 1:Ll 1:Lu 1:Ll 2:Lu 1:Ll 1:Lu 1:Ll 1:Lu 1:Ll 1:Lu 1:Ll 1:Lu 1:Ll 1:Lu 1:Ll 1:Lu 2:Ll "
  ++ "1:Lu 1:Ll 1:Lu 1:Ll 1:Lu 1:Ll 1:Lu 1:Ll 1:Lu 1:Ll 1:Lu 1:Ll 1:Lu 1:Ll 1:Lu 1:Ll 1:Lu 1:Ll 1:Lu "
  ++ "1:Ll 1:Lu 1:Ll 1:Lu 1:Ll 1:Lu 1:Ll 1:Lu 1:Ll 1:Lu 1:Ll 1:Lu 1:Ll 1:Lu 1:Ll 1:Lu 1:Ll 1:Lu 1:Ll "
  ++ "1:Lu 1:Ll 1:Lu 1:Ll 1:Lu 1:Ll 1:Lu 1:Ll 1:Lu 1:Ll 1:Lu 1:Ll 1:Lu 1:Ll 1:Lu 1:Ll 1:Lu 1:Ll 1:Lu "
  ++ "1:Ll 1:Lu 1:Ll 1:Lu 1:Ll 1:Lu 1:Ll 1:Lu 1:Ll 1:Lu 1:Ll 1:Lu 1:Ll 1:Lu 1:Ll 1:Lu 1:Ll 1:Lu 1:Ll "
  ++ "1:Lu 1:Ll 1:Lu 1:Ll 1:Lu 1:Ll 1:Lu 1:Ll 1:Lu 1:Ll 1:Lu 1:Ll 1:Lu 1:Ll 1:Lu 1:Ll 1:Lu 1:Ll 1:Lu "
  ++ "1:Ll 1:Cn 12:Lu 2:Cn 1:Lm 6:Po 15:Ll 1:Po 1:Pd 2:Cn 2:So 1:Sc 1:Cn 19:Mn 1:Pd 1:Mn 1:Po 2:Mn "
  ++ "1:Po 2:Mn 1:Po 1:Mn 8:Cn R:Lo 4:Cn 4:Lo 2:Po B:Cn 6:Cf 3:Sm 2:Po 1:Sc 2:Po 2:So B:Mn 1:Po 1:Cf "
  ++ "3:Po W:Lo 1:Lm A:Lo L:Mn A:Nd 4:Po 2:Lo 1:Mn 2R:Lo 1:Po 1:Lo 7:Mn 1:Cf 1:So 6:Mn 2:Lm 2:Mn 1:So "
  ++ "4:Mn 2:Lo A:Nd 3:Lo 2:So 1:Lo E:Po 1:Cn 1:Cf 1:Lo 1:Mn U:Lo R:Mn 2:Cn 2H:Lo B:Mn 1:Lo E:Cn A:Nd "
  ++ "X:Lo 9:Mn 2:Lm 1:So 3:Po 1:Lm 2:Cn 1:Mn 2:Sc M:Lo 4:Mn 1:Lm 9:Mn 1:Lm 3:Mn 1:Lm 5:Mn 2:Cn F:Po "
  ++ "1:Cn P:Lo 3:Mn 2:Cn 1:Po 1:Cn B:Lo 5:Cn O:Lo 1:Sk 6:Lo 1:Cn 2:Cf 5:Cn 9:Mn 15:Lo 1:Lm O:Mn 1:Cf "
  ++ "W:Mn 1:Mc 1I:Lo 1:Mn 1:Mc 1:Mn 1:Lo 3:Mc 8:Mn 4:Mc 1:Mn 2:Mc 1:Lo 7:Mn A:Lo 2:Mn 2:Po A:Nd 1:Po "
  ++ "1:Lm F:Lo 1:Mn 2:Mc 1:Cn 8:Lo 2:Cn 2:Lo 2:Cn M:Lo 1:Cn 7:Lo 1:Cn 1:Lo 3:Cn 4:Lo 2:Cn 1:Mn 1:Lo "
  ++ "3:Mc 4:Mn 2:Cn 2:Mc 2:Cn 2:Mc 1:Mn 1:Lo 8:Cn 1:Mc 4:Cn 2:Lo 1:Cn 3:Lo 2:Mn 2:Cn A:Nd 2:Lo 2:Sc "
  ++ "6:No 1:So 1:Sc 1:Lo 1:Po 1:Mn 2:Cn 2:Mn 1:Mc 1:Cn 6:Lo 4:Cn 2:Lo 2:Cn M:Lo 1:Cn 7:Lo 1:Cn 2:Lo "
  ++ "1:Cn 2:Lo 1:Cn 2:Lo 2:Cn 1:Mn 1:Cn 3:Mc 2:Mn 4:Cn 2:Mn 2:Cn 3:Mn 3:Cn 1:Mn 7:Cn 4:Lo 1:Cn 1:Lo "
  ++ "7:Cn A:Nd 2:Mn 3:Lo 1:Mn 1:Po A:Cn 2:Mn 1:Mc 1:Cn 9:Lo 1:Cn 3:Lo 1:Cn M:Lo 1:Cn 7:Lo 1:Cn 2:Lo "
  ++ "1:Cn 5:Lo 2:Cn 1:Mn 1:Lo 3:Mc 5:Mn 1:Cn 2:Mn 1:Mc 1:Cn 2:Mc 1:Mn 2:Cn 1:Lo F:Cn 2:Lo 2:Mn 2:Cn "
  ++ "A:Nd 1:Po 1:Sc 7:Cn 1:Lo 6:Mn 1:Cn 1:Mn 2:Mc 1:Cn 8:Lo 2:Cn 2:Lo 2:Cn M:Lo 1:Cn 7:Lo 1:Cn 2:Lo "
  ++ "1:Cn 5:Lo 2:Cn 1:Mn 1:Lo 1:Mc 1:Mn 1:Mc 4:Mn 2:Cn 2:Mc 2:Cn 2:Mc 1:Mn 7:Cn 2:Mn 1:Mc 4:Cn 2:Lo "
  ++ "1:Cn 3:Lo 2:Mn 2:Cn A:Nd 1:So 1:Lo 6:No A:Cn 1:Mn 1:Lo 1:Cn 6:Lo 3:Cn 3:Lo 1:Cn 4:Lo 3:Cn 2:Lo "
  ++ "1:Cn 1:Lo 1:Cn 2:Lo 3:Cn 2:Lo 3:Cn 3:Lo 3:Cn C:Lo 4:Cn 2:Mc 1:Mn 2:Mc 3:Cn 3:Mc 1:Cn 3:Mc 1:Mn "
  ++ "2:Cn 1:Lo 6:Cn 1:Mc E:Cn A:Nd 3:No 6:So 1:Sc 1:So 5:Cn 1:Mn 3:Mc 1:Mn 8:Lo 1:Cn 3:Lo 1:Cn N:Lo "
  ++ "1:Cn G:Lo 2:Cn 1:Mn 1:Lo 3:Mn 4:Mc 1:Cn 3:Mn 1:Cn 4:Mn 7:Cn 2:Mn 1:Cn 3:Lo 2:Cn 1:Lo 2:Cn 2:Lo "
  ++ "2:Mn 2:Cn A:Nd 7:Cn 1:Po 7:No 1:So 1:Lo 1:Mn 2:Mc 1:Po 8:Lo 1:Cn 3:Lo 1:Cn N:Lo 1:Cn A:Lo 1:Cn "
  ++ "5:Lo 2:Cn 1:Mn 1:Lo 1:Mc 1:Mn 5:Mc 1:Cn 1:Mn 2:Mc 1:Cn 2:Mc 2:Mn 7:Cn 2:Mc 6:Cn 2:Lo 1:Cn 2:Lo "
  ++ "2:Mn 2:Cn A:Nd 1:Cn 2:Lo 1:Mc C:Cn 2:Mn 2:Mc 9:Lo 1:Cn 3:Lo 1:Cn 15:Lo 2:Mn 1:Lo 3:Mc 4:Mn 1:Cn "
  ++ "3:Mc 1:Cn 3:Mc 1:Mn 1:Lo 1:So 4:Cn 3:Lo 1:Mc 7:No 3:Lo 2:Mn 2:Cn A:Nd 9:No 1:So 6:Lo 1:Cn 1:Mn "
  ++ "2:Mc 1:Cn I:Lo 3:Cn O:Lo 1:Cn 9:Lo 1:Cn 1:Lo 2:Cn 7:Lo 3:Cn 1:Mn 4:Cn 3:Mc 3:Mn 1:Cn 1:Mn 1:Cn "
  ++ "8:Mc 6:Cn A:Nd 2:Cn 2:Mc 1:Po C:Cn 1C:Lo 1:Mn 2:Lo 7:Mn 4:Cn 1:Sc 6:Lo 1:Lm 8:Mn 1:Po A:Nd 2:Po "
  ++ "11:Cn 2:Lo 1:Cn 1:Lo 1:Cn 5:Lo 1:Cn O:Lo 1:Cn 1:Lo 1:Cn A:Lo 1:Mn 2:Lo 9:Mn 1:Lo 2:Cn 5:Lo 1:Cn "
  ++ "1:Lm 1:Cn 7:Mn 1:Cn A:Nd 2:Cn 4:Lo W:Cn 1:Lo 3:So F:Po 1:So 1:Po 3:So 2:Mn 6:So A:Nd A:No 1:So "
  ++ "1:Mn 1:So 1:Mn 1:So 1:Mn 1:Ps 1:Pe 1:Ps 1:Pe 2:Mc 8:Lo 1:Cn 10:Lo 4:Cn E:Mn 1:Mc 5:Mn 1:Po 2:Mn "
  ++ "5:Lo B:Mn 1:Cn 10:Mn 1:Cn 8:So 1:Mn 6:So 1:Cn 2:So 5:Po 4:So 2:Po 11:Cn 17:Lo 2:Mc 4:Mn 1:Mc "
  ++ "6:Mn 1:Mc 2:Mn 2:Mc 2:Mn 1:Lo A:Nd 6:Po 6:Lo 2:Mc 2:Mn 4:Lo 3:Mn 1:Lo 3:Mc 2:Lo 7:Mc 3:Lo 4:Mn "
  ++ "D:Lo 1:Mn 2:Mc 2:Mn 6:Mc 1:Mn 1:Lo 1:Mc A:Nd 3:Mc 1:Mn 2:So 12:Lu 1:Cn 1:Lu 5:Cn 1:Lu 2:Cn "
  ++ "17:Ll 1:Po 1:Lm 3:Ll 95:Lo 1:Cn 4:Lo 2:Cn 7:Lo 1:Cn 1:Lo 1:Cn 4:Lo 2:Cn 15:Lo 1:Cn 4:Lo 2:Cn "
  ++ "X:Lo 1:Cn 4:Lo 2:Cn 7:Lo 1:Cn 1:Lo 1:Cn 4:Lo 2:Cn F:Lo 1:Cn 1L:Lo 1:Cn 4:Lo 2:Cn 1V:Lo 2:Cn "
  ++ "3:Mn 9:Po K:No 3:Cn G:Lo A:So 6:Cn 2E:Lu 2:Cn 6:Ll 2:Cn 1:Pd H8:Lo 1:So 1:Po H:Lo 1:Zs Q:Lo "
  ++ "1:Ps 1:Pe 3:Cn 23:Lo 3:Po 3:Nl 8:Lo 7:Cn I:Lo 3:Mn 1:Mc 9:Cn J:Lo 2:Mn 1:Mc 2:Po 9:Cn I:Lo 2:Mn "
  ++ "C:Cn D:Lo 1:Cn 3:Lo 1:Cn 2:Mn C:Cn 1G:Lo 2:Mn 1:Mc 7:Mn 8:Mc 1:Mn 2:Mc B:Mn 3:Po 1:Lm 3:Po 1:Sc "
  ++ "1:Lo 1:Mn 2:Cn A:Nd 6:Cn A:No 6:Cn 6:Po 1:Pd 4:Po 3:Mn 1:Cf 1:Mn A:Nd 6:Cn Z:Lo 1:Lm 1H:Lo 7:Cn "
  ++ "5:Lo 2:Mn Y:Lo 1:Mn 1:Lo 5:Cn 1Y:Lo A:Cn V:Lo 1:Cn 3:Mn 4:Mc 2:Mn 3:Mc 4:Cn 2:Mc 1:Mn 6:Mc 3:Mn "
  ++ "4:Cn 1:So 3:Cn 2:Po A:Nd U:Lo 2:Cn 5:Lo B:Cn 18:Lo 4:Cn Q:Lo 6:Cn A:Nd 1:No 3:Cn Y:So N:Lo 2:Mn "
  ++ "2:Mc 1:Mn 2:Cn 2:Po 1H:Lo 1:Mc 1:Mn 1:Mc 7:Mn 1:Cn 1:Mn 1:Mc 1:Mn 2:Mc 8:Mn 6:Mc A:Mn 2:Cn 1:Mn "
  ++ "A:Nd 6:Cn A:Nd 6:Cn 7:Po 1:Lm 6:Po 2:Cn E:Mn 1:Me G:Mn 1D:Cn 4:Mn 1:Mc 1B:Lo 1:Mn 1:Mc 5:Mn "
  ++ "1:Mc 1:Mn 5:Mc 1:Mn 2:Mc 8:Lo 1:Cn 2:Po A:Nd 7:Po A:So 9:Mn 9:So 3:Po 2:Mn 1:Mc U:Lo 1:Mc 4:Mn "
  ++ "2:Mc 2:Mn 1:Mc 3:Mn 2:Lo A:Nd 18:Lo 1:Mn 1:Mc 2:Mn 3:Mc 1:Mn 1:Mc 3:Mn 2:Mc 8:Cn 4:Po 10:Lo "
  ++ "8:Mc 8:Mn 2:Mc 2:Mn 3:Cn 5:Po A:Nd 3:Cn 3:Lo A:Nd U:Lo 6:Lm 2:Po 9:Ll 1:Lu 1:Ll 5:Cn 17:Lu 2:Cn "
  ++ "3:Lu 8:Po 8:Cn 3:Mn 1:Po D:Mn 1:Mc 7:Mn 4:Lo 1:Mn 6:Lo 1:Mn 2:Lo 1:Mc 2:Mn 1:Lo 5:Cn 18:Ll "
  ++ "1R:Lm D:Ll 1:Lm Y:Ll 11:Lm 1S:Mn 1:Lu 1:Ll 1:Lu 1:Ll 1:Lu 1:Ll 1:Lu 1:Ll 1:Lu 1:Ll 1:Lu 1:Ll "
  ++ "1:Lu 1:Ll 1:Lu 1:Ll 1:Lu 1:Ll 1:Lu 1:Ll 1:Lu 1:Ll 1:Lu 1:Ll 1:Lu 1:Ll 1:Lu 1:Ll 1:Lu 1:Ll 1:Lu "
  ++ "1:Ll 1:Lu 1:Ll 1:Lu 1:Ll 1:Lu 1:Ll 1:Lu 1:Ll 1:Lu 1:Ll 1:Lu 1:Ll 1:Lu 1:Ll 1:Lu 1:Ll 1:Lu 1:Ll "
  ++ "1:Lu 1:Ll 1:Lu 1:Ll 1:Lu 1:Ll 1:Lu 1:Ll 1:Lu 1:Ll 1:Lu 1:Ll 1:Lu 1:Ll 1:Lu 1:Ll 1:Lu 1:Ll 1:Lu "
  ++ "1:Ll 1:Lu 1:Ll 1:Lu 1:Ll 1:Lu 1:Ll 1:Lu 1:Ll 1:Lu 1:Ll 1:Lu 1:Ll 1:Lu 1:Ll 1:Lu 1:Ll 1:Lu 1:Ll "
  ++ "1:Lu 1:Ll 1:Lu 1:Ll 1:Lu 1:Ll 1:Lu 1:Ll 1:Lu 1:Ll 1:Lu 1:Ll 1:Lu 1:Ll 1:Lu 1:Ll 1:Lu 1:Ll 1:Lu "
  ++ "1:Ll 1:Lu 1:Ll 1:Lu 1:Ll 1:Lu 1:Ll 1:Lu 1:Ll 1:Lu 1:Ll 1:Lu 1:Ll 1:Lu 1:Ll 1:Lu 1:Ll 1:Lu 1:Ll "
  ++ "1:Lu 1:Ll 1:Lu 1:Ll 1:Lu 1:Ll 1:Lu 1:Ll 1:Lu 1:Ll 1:Lu 1:Ll 1:Lu 1:Ll 1:Lu 1:Ll 1:Lu 1:Ll 1:Lu "
  ++ "1:Ll 1:Lu 1:Ll 1:Lu 9:Ll 1:Lu 1:Ll 1:Lu 1:Ll 1:Lu 1:Ll 1:Lu 1:Ll 1:Lu 1:Ll 1:Lu 1:Ll 1:Lu 1:Ll "
  ++ "1:Lu 1:Ll 1:Lu 1:Ll 1:Lu 1:Ll 1:Lu 1:Ll 1:Lu 1:Ll 1:Lu 1:Ll 1:Lu 1:Ll 1:Lu 1:Ll 1:Lu 1:Ll 1:Lu "
  ++ "1:Ll 1:Lu 1:Ll 1:Lu 1:Ll 1:Lu 1:Ll 1:Lu 1:Ll 1:Lu 1:Ll 1:Lu 1:Ll 1:Lu 1:Ll 1:Lu 1:Ll 1:Lu 1:Ll "
  ++ "1:Lu 1:Ll 1:Lu 1:Ll 1:Lu 1:Ll 1:Lu 1:Ll 1:Lu 1:Ll 1:Lu 1:Ll 1:Lu 1:Ll 1:Lu 1:Ll 1:Lu 1:Ll 1:Lu "
  ++ "1:Ll 1:Lu 1:Ll 1:Lu 1:Ll 1:Lu 1:Ll 1:Lu 1:Ll 1:Lu 1:Ll 1:Lu 1:Ll 1:Lu 1:Ll 1:Lu 1:Ll 1:Lu 1:Ll "
  ++ "1:Lu 1:Ll 1:Lu 1:Ll 1:Lu 1:Ll 1:Lu 9:Ll 8:Lu 6:Ll 2:Cn 6:Lu 2:Cn 8:Ll 8:Lu 8:Ll 8:Lu 6:Ll 2:Cn "
  ++ "6:Lu 2:Cn 8:Ll 1:Cn 1:Lu 1:Cn 1:Lu 1:Cn 1:Lu 1:Cn 1:Lu 8:Ll 8:Lu E:Ll 2:Cn 8:Ll 8:Lt 8:Ll 8:Lt "
  ++ "8:Ll 8:Lt 5:Ll 1:Cn 2:Ll 4:Lu 1:Lt 1:Sk 1:Ll 3:Sk 3:Ll 1:Cn 2:Ll 4:Lu 1:Lt 3:Sk 4:Ll 2:Cn 2:Ll "
  ++ "4:Lu 1:Cn 3:Sk 8:Ll 5:Lu 3:Sk 2:Cn 3:Ll 1:Cn 2:Ll 4:Lu 1:Lt 2:Sk 1:Cn B:Zs 5:Cf 6:Pd 2:Po 1:Pi "
  ++ "1:Pf 1:Ps 2:Pi 1:Pf 1:Ps 1:Pi 8:Po 1:Zl 1:Zp 5:Cf 1:Zs 9:Po 1:Pi 1:Pf 4:Po 2:Pc 3:Po 1:Sm 1:Ps "
  ++ "1:Pe B:Po 1:Sm 1:Po 1:Pc A:Po 1:Zs 5:Cf 1:Cn A:Cf 1:No 1:Lm 2:Cn 6:No 3:Sm 1:Ps 1:Pe 1:Lm A:No "
  ++ "3:Sm 1:Ps 1:Pe 1:Cn D:Lm 3:Cn X:Sc F:Cn D:Mn 4:Me 1:Mn 3:Me C:Mn F:Cn 2:So 1:Lu 4:So 1:Lu 2:So "
  ++ "1:Ll 3:Lu 2:Ll 3:Lu 1:Ll 1:So 1:Lu 2:So 1:Sm 5:Lu 6:So 1:Lu 1:So 1:Lu 1:So 1:Lu 1:So 4:Lu 1:So "
  ++ "1:Ll 4:Lu 1:Ll 4:Lo 1:Ll 2:So 2:Ll 2:Lu 5:Sm 1:Lu 4:Ll 1:So 1:Sm 2:So 1:Ll 1:So G:No Z:Nl 1:Lu "
  ++ "1:Ll 4:Nl 1:No 2:So 4:Cn 5:Sm 5:So 2:Sm 4:So 1:Sm 2:So 1:Sm 2:So 1:Sm 7:So 1:Sm V:So 2:Sm 2:So "
  ++ "1:Sm 1:So 1:Sm V:So 7G:Sm 8:So 1:Ps 1:Pe 1:Ps 1:Pe K:So 2:Sm 7:So 1:Ps 1:Pe 29:So 1:Sm U:So "
  ++ "P:Sm 14:So 6:Sm 20:So M:Cn B:So L:Cn 1O:No 26:So M:No 53:So 1:Sm 9:So 1:Sm 1I:So 8:Sm 33:So "
  ++ "1:Sm 6W:So 1:Ps 1:Pe 1:Ps 1:Pe 1:Ps 1:Pe 1:Ps 1:Pe 1:Ps 1:Pe 1:Ps 1:Pe 1:Ps 1:Pe U:No 18:So "
  ++ "5:Sm 1:Ps 1:Pe V:Sm 1:Ps 1:Pe 1:Ps 1:Pe 1:Ps 1:Pe 1:Ps 1:Pe 1:Ps 1:Pe G:Sm 74:So 3N:Sm 1:Ps "
  ++ "1:Pe 1:Ps 1:Pe 1:Ps 1:Pe 1:Ps 1:Pe 1:Ps 1:Pe 1:Ps 1:Pe 1:Ps 1:Pe 1:Ps 1:Pe 1:Ps 1:Pe 1:Ps 1:Pe "
  ++ "1:Ps 1:Pe 1R:Sm 1:Ps 1:Pe 1:Ps 1:Pe W:Sm 1:Ps 1:Pe 76:Sm 1C:So L:Sm 2:So 6:Sm 13:So 2:Cn W:So "
  ++ "1:Cn 2X:So 1C:Lu 1C:Ll 1:Lu 1:Ll 3:Lu 2:Ll 1:Lu 1:Ll 1:Lu 1:Ll 1:Lu 1:Ll 4:Lu 1:Ll 1:Lu 2:Ll "
  ++ "1:Lu 6:Ll 2:Lm 3:Lu 1:Ll 1:Lu 1:Ll 1:Lu 1:Ll 1:Lu 1:Ll 1:Lu 1:Ll 1:Lu 1:Ll 1:Lu 1:Ll 1:Lu 1:Ll "
  ++ "1:Lu 1:Ll 1:Lu 1:Ll 1:Lu 1:Ll 1:Lu 1:Ll 1:Lu 1:Ll 1:Lu 1:Ll 1:Lu 1:Ll 1:Lu 1:Ll 1:Lu 1:Ll 1:Lu "
  ++ "1:Ll 1:Lu 1:Ll 1:Lu 1:Ll 1:Lu 1:Ll 1:Lu 1:Ll 1:Lu 1:Ll 1:Lu 1:Ll 1:Lu 1:Ll 1:Lu 1:Ll 1:Lu 1:Ll "
  ++ "1:Lu 1:Ll 1:Lu 1:Ll 1:Lu 1:Ll 1:Lu 1:Ll 1:Lu 1:Ll 1:Lu 1:Ll 1:Lu 1:Ll 1:Lu 1:Ll 1:Lu 1:Ll 1:Lu "
  ++ "1:Ll 1:Lu 1:Ll 1:Lu 1:Ll 1:Lu 1:Ll 1:Lu 1:Ll 1:Lu 1:Ll 1:Lu 1:Ll 1:Lu 1:Ll 1:Lu 1:Ll 1:Lu 1:Ll "
  ++ "1:Lu 1:Ll 1:Lu 1:Ll 1:Lu 1:Ll 1:Lu 2:Ll 6:So 1:Lu 1:Ll 1:Lu 1:Ll 3:Mn 1:Lu 1:Ll 5:Cn 4:Po 1:No "
  ++ "2:Po 12:Ll 1:Cn 1:Ll 5:Cn 1:Ll 2:Cn 1K:Lo 7:Cn 1:Lm 1:Po E:Cn 1:Mn N:Lo 9:Cn 7:Lo 1:Cn 7:Lo "
  ++ "1:Cn 7:Lo 1:Cn 7:Lo 1:Cn 7:Lo 1:Cn 7:Lo 1:Cn 7:Lo 1:Cn 7:Lo 1:Cn W:Mn 2:Po 1:Pi 1:Pf 1:Pi 1:Pf "
  ++ "3:Po 1:Pi 1:Pf 1:Po 1:Pi 1:Pf 9:Po 1:Pd 2:Po 1:Pd 1:Po 1:Pi 1:Pf 2:Po 1:Pi 1:Pf 1:Ps 1:Pe 1:Ps "
  ++ "1:Pe 1:Ps 1:Pe 1:Ps 1:Pe 5:Po 1:Lm A:Po 2:Pd 4:Po 1:Pd 1:Po 1:Ps D:Po 2:So 3:Po 1:Ps 1:Pe 1:Ps "
  ++ "1:Pe 1:Ps 1:Pe 1:Ps 1:Pe 1:Pd Y:Cn Q:So 1:Cn 2H:So C:Cn 5Y:So Q:Cn G:So 1:Zs 3:Po 1:So 1:Lm "
  ++ "1:Lo 1:Nl 1:Ps 1:Pe 1:Ps 1:Pe 1:Ps 1:Pe 1:Ps 1:Pe 1:Ps 1:Pe 2:So 1:Ps 1:Pe 1:Ps 1:Pe 1:Ps 1:Pe "
  ++ "1:Ps 1:Pe 1:Pd 1:Ps 2:Pe 1:So 9:Nl 4:Mn 2:Mc 1:Pd 5:Lm 2:So 3:Nl 1:Lm 1:Lo 1:Po 2:So 1:Cn 2E:Lo "
  ++ "2:Cn 2:Mn 2:Sk 2:Lm 1:Lo 1:Pd 2I:Lo 1:Po 3:Lm 1:Lo 5:Cn 17:Lo 1:Cn 2M:Lo 1:Cn 2:So 4:No A:So "
  ++ "W:Lo 12:So 9:Cn 1:So G:Lo V:So 1:Cn A:No U:So 8:No 1:So F:No W:So A:No 13:So F:No 8W:So 534:Lo "
  ++ "1S:So G7P:Lo 1:Lm VR:Lo 3:Cn 1J:So 9:Cn 14:Lo 6:Lm 2:Po 7G:Lo 1:Lm 3:Po G:Lo A:Nd 2:Lo K:Cn "
  ++ "1:Lu 1:Ll 1:Lu 1:Ll 1:Lu 1:Ll 1:Lu 1:Ll 1:Lu 1:Ll 1:Lu 1:Ll 1:Lu 1:Ll 1:Lu 1:Ll 1:Lu 1:Ll 1:Lu "
  ++ "1:Ll 1:Lu 1:Ll 1:Lu 1:Ll 1:Lu 1:Ll 1:Lu 1:Ll 1:Lu 1:Ll 1:Lu 1:Ll 1:Lu 1:Ll 1:Lu 1:Ll 1:Lu 1:Ll "
  ++ "1:Lu 1:Ll 1:Lu 1:Ll 1:Lu 1:Ll 1:Lu 1:Ll 1:Lo 1:Mn 3:Me 1:Po A:Mn 1:Po 1:Lm 1:Lu 1:Ll 1:Lu 1:Ll "
  ++ "1:Lu 1:Ll 1:Lu 1:Ll 1:Lu 1:Ll 1:Lu 1:Ll 1:Lu 1:Ll 1:Lu 1:Ll 1:Lu 1:Ll 1:Lu 1:Ll 1:Lu 1:Ll 1:Lu "
  ++ "1:Ll 1:Lu 1:Ll 1:Lu 1:Ll 2:Lm 2:Mn 1Y:Lo A:Nl 2:Mn 6:Po 8:Cn N:Sk 9:Lm 2:Sk 1:Lu 1:Ll 1:Lu 1:Ll "
  ++ "1:Lu 1:Ll 1:Lu 1:Ll 1:Lu 1:Ll 1:Lu 1:Ll 1:Lu 3:Ll 1:Lu 1:Ll 1:Lu 1:Ll 1:Lu 1:Ll 1:Lu 1:Ll 1:Lu "
  ++ "1:Ll 1:Lu 1:Ll 1:Lu 1:Ll 1:Lu 1:Ll 1:Lu 1:Ll 1:Lu 1:Ll 1:Lu 1:Ll 1:Lu 1:Ll 1:Lu 1:Ll 1:Lu 1:Ll "
  ++ "1:Lu 1:Ll 1:Lu 1:Ll 1:Lu 1:Ll 1:Lu 1:Ll 1:Lu 1:Ll 1:Lu 1:Ll 1:Lu 1:Ll 1:Lu 1:Ll 1:Lu 1:Ll 1:Lu "
  ++ "1:Ll 1:Lu 1:Ll 1:Lu 1:Ll 1:Lu 1:Ll 1:Lu 1:Ll 1:Lu 1:Ll 1:Lu 1:Ll 1:Lu 1:Ll 1:Lm 8:Ll 1:Lu 1:Ll "
  ++ "1:Lu 1:Ll 2:Lu 1:Ll 1:Lu 1:Ll 1:Lu 1:Ll 1:Lu 1:Ll 1:Lu 1:Ll 1:Lm 2:Sk 1:Lu 1:Ll 1:Lu 1:Ll 1:Lo "
  ++ "1:Lu 1:Ll 1:Lu 3:Ll 1:Lu 1:Ll 1:Lu 1:Ll 1:Lu 1:Ll 1:Lu 1:Ll 1:Lu 1:Ll 1:Lu 1:Ll 1:Lu 1:Ll 1:Lu "
  ++ "1:Ll 1:Lu 1:Ll 1:Lu 1:Ll 5:Lu 1:Ll 5:Lu 1:Ll 1:Lu 1:Ll 1:Lu 1:Ll 1:Lu 1:Ll 1:Lu 1:Ll 1:Lu 1:Ll "
  ++ "1:Lu 1:Ll 1:Lu 1:Ll 4:Lu 1:Ll 1:Lu 1:Ll 2:Lu 1:Ll 2:Cn 1:Lu 1:Ll 1:Cn 1:Ll 1:Cn 1:Ll 1:Lu 1:Ll "
  ++ "1:Lu 1:Ll 1:Lu 1:Ll 1:Lu L:Cn 3:Lm 1:Lu 1:Ll 1:Lo 2:Lm 1:Ll 7:Lo 1:Mn 3:Lo 1:Mn 4:Lo 1:Mn N:Lo "
  ++ "2:Mc 2:Mn 1:Mc 4:So 1:Mn 3:Cn 6:No 2:So 1:Sc 1:So 6:Cn 1G:Lo 4:Po 8:Cn 2:Mc 1E:Lo G:Mc 2:Mn "
  ++ "8:Cn 2:Po A:Nd 6:Cn I:Mn 6:Lo 3:Po 1:Lo 1:Po 2:Lo 1:Mn A:Nd S:Lo 8:Mn 2:Po N:Lo B:Mn 2:Mc B:Cn "
  ++ "1:Po T:Lo 3:Cn 3:Mn 1:Mc 1B:Lo 1:Mn 2:Mc 4:Mn 2:Mc 2:Mn 3:Mc D:Po 1:Cn 1:Lm A:Nd 4:Cn 2:Po 5:Lo "
  ++ "1:Mn 1:Lm 9:Lo A:Nd 5:Lo 1:Cn 15:Lo 6:Mn 2:Mc 2:Mn 2:Mc 2:Mn 9:Cn 3:Lo 1:Mn 8:Lo 1:Mn 1:Mc 2:Cn "
  ++ "A:Nd 2:Cn 4:Po G:Lo 1:Lm 6:Lo 3:So 1:Lo 1:Mc 1:Mn 1:Mc 1E:Lo 1:Mn 1:Lo 3:Mn 2:Lo 2:Mn 5:Lo 2:Mn "
  ++ "1:Lo 1:Mn 1:Lo O:Cn 2:Lo 1:Lm 2:Po B:Lo 1:Mc 2:Mn 2:Mc 2:Po 1:Lo 2:Lm 1:Mc 1:Mn A:Cn 6:Lo 2:Cn "
  ++ "6:Lo 2:Cn 6:Lo 9:Cn 7:Lo 1:Cn 7:Lo 1:Cn 17:Ll 1:Sk 4:Lm 9:Ll 1:Lm 2:Sk 4:Cn 28:Ll Z:Lo 2:Mc "
  ++ "1:Mn 2:Mc 1:Mn 2:Mc 1:Po 1:Mc 1:Mn 2:Cn A:Nd 6:Cn 8MC:Lo C:Cn N:Lo 4:Cn 1D:Lo 4:Cn 1KW:Cs "
  ++ "4XS:Co A6:Lo 2:Cn 2Y:Lo 12:Cn 7:Ll C:Cn 5:Ll 5:Cn 1:Lo 1:Mn A:Lo 1:Sm D:Lo 1:Cn 5:Lo 1:Cn 1:Lo "
  ++ "1:Cn 2:Lo 1:Cn 2:Lo 1:Cn 30:Lo H:Sk G:Cn A3:Lo 1:Pe 1:Ps G:So 1S:Lo 2:Cn 1I:Lo 7:Cn 1:So W:Cn "
  ++ "C:Lo 1:Sc 3:So G:Mn 7:Po 1:Ps 1:Pe 1:Po 6:Cn G:Mn 1:Po 2:Pd 2:Pc 1:Ps 1:Pe 1:Ps 1:Pe 1:Ps 1:Pe "
  ++ "1:Ps 1:Pe 1:Ps 1:Pe 1:Ps 1:Pe 1:Ps 1:Pe 1:Ps 1:Pe 2:Po 1:Ps 1:Pe 4:Po 3:Pc 3:Po 1:Cn 4:Po 1:Pd "
  ++ "1:Ps 1:Pe 1:Ps 1:Pe 1:Ps 1:Pe 3:Po 1:Sm 1:Pd 3:Sm 1:Cn 1:Po 1:Sc 2:Po 4:Cn 5:Lo 1:Cn 3R:Lo 2:Cn "
  ++ "1:Cf 1:Cn 3:Po 1:Sc 3:Po 1:Ps 1:Pe 1:Po 1:Sm 1:Po 1:Pd 2:Po A:Nd 2:Po 3:Sm 2:Po Q:Lu 1:Ps 1:Po "
  ++ "1:Pe 1:Sk 1:Pc 1:Sk Q:Ll 1:Ps 1:Sm 1:Pe 1:Sm 1:Ps 1:Pe 1:Po 1:Ps 1:Pe 2:Po A:Lo 1:Lm 19:Lo 2:Lm "
  ++ "V:Lo 3:Cn 6:Lo 2:Cn 6:Lo 2:Cn 6:Lo 2:Cn 3:Lo 3:Cn 2:Sc 1:Sm 1:Sk 1:So 2:Sc 1:Cn 1:So 4:Sm 2:So "
  ++ "A:Cn 3:Cf 2:So 2:Cn C:Lo 1:Cn Q:Lo 1:Cn J:Lo 1:Cn 2:Lo 1:Cn F:Lo 2:Cn E:Lo Y:Cn 3F:Lo 5:Cn 3:Po "
  ++ "4:Cn 19:No 3:Cn 9:So 1H:Nl 4:No H:So 2:No 3:So 1:Cn D:So 3:Cn 1:So 1B:Cn 19:So 1:Mn 3M:Cn T:Lo "
  ++ "3:Cn 1D:Lo F:Cn 1:Mn R:No 4:Cn W:Lo 4:No 9:Cn K:Lo 1:Nl 8:Lo 1:Nl 5:Cn 12:Lo 5:Mn 5:Cn U:Lo "
  ++ "1:Cn 1:Po 10:Lo 4:Cn 8:Lo 1:Po 5:Nl 16:Cn 14:Lu 14:Ll 26:Lo 2:Cn A:Nd 6:Cn 10:Lu 4:Cn 10:Ll "
  ++ "4:Cn 14:Lo 8:Cn 1G:Lo B:Cn 1:Po B:Lu 1:Cn F:Lu 1:Cn 7:Lu 1:Cn 2:Lu 1:Cn B:Ll 1:Cn F:Ll 1:Cn "
  ++ "7:Ll 1:Cn 2:Ll 3:Cn 1G:Lo C:Cn 8N:Lo 9:Cn M:Lo A:Cn 8:Lo O:Cn 6:Lm 1:Cn 16:Lm 1:Cn 9:Lm 1X:Cn "
  ++ "6:Lo 2:Cn 1:Lo 1:Cn 18:Lo 1:Cn 2:Lo 3:Cn 1:Lo 2:Cn N:Lo 1:Cn 1:Po 8:No N:Lo 2:So 7:No V:Lo 8:Cn "
  ++ "9:No 1C:Cn J:Lo 1:Cn 2:Lo 5:Cn 5:No M:Lo 6:No 3:Cn 1:Po Q:Lo 5:Cn 1:Po 1S:Cn 1K:Lo 4:Cn 2:No "
  ++ "2:Lo G:No 2:Cn 1A:No 1:Lo 3:Mn 1:Cn 2:Mn 5:Cn 4:Mn 4:Lo 1:Cn 3:Lo 1:Cn T:Lo 2:Cn 3:Mn 4:Cn 1:Mn "
  ++ "9:No 7:Cn 9:Po 7:Cn T:Lo 2:No 1:Po T:Lo 3:No W:Cn 8:Lo 1:So S:Lo 2:Mn 4:Cn 5:No 7:Po 9:Cn 1I:Lo "
  ++ "3:Cn 7:Po M:Lo 2:Cn 8:No J:Lo 5:Cn 8:No I:Lo 7:Cn 4:Po C:Cn 7:No 28:Cn 21:Lo 1J:Cn 1F:Lu D:Cn "
  ++ "1F:Ll 7:Cn 6:No 10:Lo 4:Mn 8:Cn A:Nd 6:Cn A:Nd 4:Lo 1:Lm 1:Lo M:Lu 3:Cn 5:Mn 1:Pd 1:Lm M:Ll "
  ++ "8:Cn 2:Sm 5S:Cn V:No 1:Cn 16:Lo 1:Cn 2:Mn 1:Pd 2:Cn 2:Lo G:Cn 3:Lo 1J:Cn 4:Mn T:Lo A:No 1:Lo "
  ++ "8:Cn M:Lo B:Mn 4:No 5:Po M:Cn I:Lo 4:Mn 4:Po 12:Cn L:Lo 7:No K:Cn N:Lo 9:Cn 1:Mc 1:Mn 1:Mc "
  ++ "1H:Lo F:Mn 7:Po 4:Cn K:No A:Nd 1:Mn 2:Lo 2:Mn 1:Lo 9:Cn 3:Mn 1:Mc 19:Lo 3:Mc 4:Mn 2:Mc 2:Mn "
  ++ "2:Po 1:Cf 4:Po 1:Mn A:Cn 1:Cf 2:Cn P:Lo 7:Cn A:Nd 6:Cn 3:Mn 10:Lo 5:Mn 1:Mc 8:Mn 1:Cn A:Nd 4:Po "
  ++ "1:Lo 2:Mc 1:Lo 8:Cn Z:Lo 1:Mn 2:Po 1:Lo 9:Cn 2:Mn 1:Mc 1C:Lo 3:Mc 9:Mn 2:Mc 4:Lo 4:Po 4:Mn 1:Po "
  ++ "1:Mc 1:Mn A:Nd 1:Lo 1:Po 1:Lo 3:Po 1:Cn K:No B:Cn I:Lo 1:Cn P:Lo 3:Mc 3:Mn 2:Mc 1:Mn 1:Mc 2:Mn "
  ++ "6:Po 1:Mn 2:Lo 1:Mn 1Q:Cn 7:Lo 1:Cn 1:Lo 1:Cn 4:Lo 1:Cn F:Lo 1:Cn A:Lo 1:Po 6:Cn 1B:Lo 1:Mn "
  ++ "3:Mc 8:Mn 5:Cn A:Nd 6:Cn 2:Mn 2:Mc 1:Cn 8:Lo 2:Cn 2:Lo 2:Cn M:Lo 1:Cn 7:Lo 1:Cn 2:Lo 1:Cn 5:Lo "
  ++ "1:Cn 2:Mn 1:Lo 2:Mc 1:Mn 4:Mc 2:Cn 2:Mc 2:Cn 3:Mc 2:Cn 1:Lo 6:Cn 1:Mc 5:Cn 5:Lo 2:Mc 2:Cn 7:Mn "
  ++ "3:Cn 5:Mn B:Cn A:Lo 1:Cn 1:Lo 2:Cn 1:Lo 1:Cn 12:Lo 1:Cn 1:Lo 3:Mc 6:Mn 1:Cn 1:Mc 2:Cn 1:Mc 1:Cn "
  ++ "4:Mc 1:Cn 2:Mc 1:Mn 1:Mc 1:Mn 1:Lo 1:Mn 1:Lo 2:Po 1:Cn 2:Po 8:Cn 2:Mn T:Cn 1H:Lo 3:Mc 8:Mn 2:Mc "
  ++ "3:Mn 1:Mc 1:Mn 4:Lo 5:Po A:Nd 2:Po 1:Cn 1:Po 1:Mn 3:Lo U:Cn 1C:Lo 3:Mc 6:Mn 1:Mc 1:Mn 4:Mc 2:Mn "
  ++ "1:Mc 2:Mn 2:Lo 1:Po 1:Lo 8:Cn A:Nd 4M:Cn 1B:Lo 3:Mc 4:Mn 2:Cn 4:Mc 2:Mn 1:Mc 2:Mn N:Po 4:Lo "
  ++ "2:Mn Y:Cn 1C:Lo 3:Mc 8:Mn 2:Mc 1:Mn 1:Mc 2:Mn 3:Po 1:Lo B:Cn A:Nd 6:Cn D:Po J:Cn 17:Lo 1:Mn "
  ++ "1:Mc 1:Mn 2:Mc 6:Mn 1:Mc 1:Mn 1:Lo 1:Po 6:Cn A:Nd 6:Cn K:Nd S:Cn R:Lo 2:Cn 1:Mn 1:Mc 1:Mn 2:Mc "
  ++ "4:Mn 1:Mc 5:Mn 4:Cn A:Nd 2:No 3:Po 1:So 7:Lo 55:Cn 18:Lo 3:Mc 9:Mn 1:Mc 2:Mn 1:Po 2S:Cn W:Lu "
  ++ "W:Ll A:Nd 9:No C:Cn 8:Lo 2:Cn 1:Lo 2:Cn 8:Lo 1:Cn 2:Lo 1:Cn O:Lo 6:Mc 1:Cn 2:Mc 2:Cn 2:Mn 1:Mc "
  ++ "1:Mn 1:Lo 1:Mc 1:Lo 1:Mc 1:Mn 3:Po 9:Cn A:Nd 1Y:Cn 8:Lo 2:Cn 13:Lo 3:Mc 4:Mn 2:Cn 2:Mn 4:Mc "
  ++ "1:Mn 1:Lo 1:Po 1:Lo 1:Mc R:Cn 1:Lo A:Mn 14:Lo 6:Mn 1:Mc 1:Lo 4:Mn 8:Po 1:Mn 8:Cn 1:Lo 6:Mn 2:Mc "
  ++ "3:Mn 1A:Lo D:Mn 1:Mc 2:Mn 3:Po 1:Lo 5:Po D:Cn 21:Lo 7:Cn A:Po 52:Cn X:Lo 1:Po E:Cn A:Nd 6:Cn "
  ++ "9:Lo 1:Cn 11:Lo 1:Mc 7:Mn 1:Cn 6:Mn 1:Mc 1:Mn 1:Lo 5:Po A:Cn A:Nd J:No 3:Cn 2:Po U:Lo 2:Cn M:Mn "
  ++ "1:Cn 1:Mc 7:Mn 1:Mc 2:Mn 1:Mc 2:Mn 21:Cn 7:Lo 1:Cn 2:Lo 1:Cn 12:Lo 6:Mn 3:Cn 1:Mn 1:Cn 2:Mn "
  ++ "1:Cn 7:Mn 1:Lo 1:Mn 8:Cn A:Nd 6:Cn 6:Lo 1:Cn 2:Lo 1:Cn W:Lo 5:Mc 1:Cn 2:Mn 1:Cn 2:Mc 1:Mn 1:Mc "
  ++ "1:Mn 1:Lo 7:Cn A:Nd 8M:Cn J:Lo 2:Mn 2:Mc 2:Po 7:Cn 2:Mn 1:Lo 1:Mc D:Lo 1:Cn Y:Lo 2:Mc 5:Mn 3:Cn "
  ++ "2:Mc 1:Mn 1:Mc 1:Mn D:Po A:Nd 1:Mn 2D:Cn 1:Lo F:Cn L:No 8:So 4:Sc H:So D:Cn 1:Po PM:Lo 2U:Cn "
  ++ "33:Nl 1:Cn 5:Po B:Cn 5G:Lo 218:Cn 2P:Lo 2:Po D:Cn TS:Lo G:Cf 1:Mn 6:Lo F:Mn A:Cn 32Z:Lo 5:Cn "
  ++ "G7:Lo 5A1:Cn U:Lo C:Mn 3:Mc 3:Mn A:Nd 1C6:Cn FT:Lo 7:Cn V:Lo 1:Cn A:Nd 4:Cn 2:Po 27:Lo 1:Cn "
  ++ "A:Nd 6:Cn U:Lo 2:Cn 5:Mn 1:Po A:Cn 1C:Lo 7:Mn 5:Po 4:So 4:Lm 1:Po 1:So A:Cn A:Nd 1:Cn 7:No 1:Cn "
  ++ "L:Lo 5:Cn J:Lo C0:Cn 3:Lm 14:Lo 2:Lm 3:Po A:Nd 5I:Cn W:Lu W:Ll N:No 4:Po 2T:Cn 23:Lo 4:Cn 1:Mn "
  ++ "1:Lo 1J:Mc 7:Cn 4:Mn D:Lm 1S:Cn 2:Lm 1:Po 1:Lm 1:Mn B:Cn 2:Mc E:Cn 4QG:Lo 8:Cn YE:Lo 15:Cn A:Lo "
  ++ "6W7:Cn 4:Lm 1:Cn 7:Lm 1:Cn 2:Lm 1:Cn 83:Lo F:Cn 1:Lo T:Cn 3:Lo 2:Cn 1:Lo E:Cn 4:Lo 8:Cn B0:Lo "
  ++ "1S4:Cn 2Z:Lo 5:Cn D:Lo 3:Cn 9:Lo 7:Cn A:Lo 2:Cn 1:So 2:Mn 1:Po 4:Cf 318:Cn 6O:So A:Nd 6:Cn "
  ++ "C4:So 24:Cn 1A:Mn 2:Cn N:Mn 9:Cn 38:So 1O:Cn 6U:So A:Cn 13:So 2:Cn 1O:So 2:Mc 3:Mn 3:So 6:Mc "
  ++ "8:Cf 8:Mn 2:So 7:Mn U:So 4:Mn 1P:So L:Cn 1U:So 3:Mn 1:So 3E:Cn K:No C:Cn K:No C:Cn 2F:So 9:Cn "
  ++ "P:No 3R:Cn Q:Lu Q:Ll Q:Lu 7:Ll 1:Cn I:Ll Q:Lu Q:Ll 1:Lu 1:Cn 2:Lu 2:Cn 1:Lu 2:Cn 2:Lu 2:Cn 4:Lu "
  ++ "1:Cn 8:Lu 4:Ll 1:Cn 1:Ll 1:Cn 7:Ll 1:Cn B:Ll Q:Lu Q:Ll 2:Lu 1:Cn 4:Lu 2:Cn 8:Lu 1:Cn 7:Lu 1:Cn "
  ++ "Q:Ll 2:Lu 1:Cn 4:Lu 1:Cn 5:Lu 1:Cn 1:Lu 3:Cn 7:Lu 1:Cn Q:Ll Q:Lu Q:Ll Q:Lu Q:Ll Q:Lu Q:Ll Q:Lu "
  ++ "Q:Ll Q:Lu Q:Ll Q:Lu S:Ll 2:Cn P:Lu 1:Sm P:Ll 1:Sm 6:Ll P:Lu 1:Sm P:Ll 1:Sm 6:Ll P:Lu 1:Sm P:Ll "
  ++ "1:Sm 6:Ll P:Lu 1:Sm P:Ll 1:Sm 6:Ll P:Lu 1:Sm P:Ll 1:Sm 6:Ll 1:Lu 1:Ll 2:Cn 1E:Nd E8:So 1J:Mn "
  ++ "4:So 1E:Mn 8:So 1:Mn E:So 1:Mn 2:So 5:Po F:Cn 5:Mn 1:Cn F:Mn UO:Cn A:Ll 1:Lo K:Ll 6:Cn 6:Ll "
  ++ "5X:Cn 7:Mn 1:Cn H:Mn 2:Cn 7:Mn 1:Cn 2:Mn 1:Cn 5:Mn 5:Cn 1Q:Lm X:Cn 1:Mn 34:Cn 19:Lo 3:Cn 7:Mn "
  ++ "7:Lm 2:Cn A:Nd 4:Cn 1:Lo 1:So 8W:Cn U:Lo 1:Mn H:Cn 18:Lo 4:Mn A:Nd 5:Cn 1:Sc CW:Cn R:Lo 1:Lm "
  ++ "4:Mn A:Nd 5Y:Cn U:Lo 2:Mn 1:Lo A:Nd 4:Cn 1:Po DC:Cn 7:Lo 1:Cn 4:Lo 1:Cn 2:Lo 1:Cn F:Lo 1:Cn "
  ++ "5H:Lo 2:Cn 9:No 7:Mn 15:Cn Y:Lu Y:Ll 7:Mn 1:Lm 4:Cn A:Nd 4:Cn 2:Po LT:Cn 1N:No 1:So 3:No 1:Sc "
  ++ "4:No 24:Cn 19:No 1:So F:No 5E:Cn 4:Lo 1:Cn R:Lo 1:Cn 2:Lo 1:Cn 1:Lo 2:Cn 1:Lo 1:Cn A:Lo 1:Cn "
  ++ "4:Lo 1:Cn 1:Lo 1:Cn 1:Lo 6:Cn 1:Lo 4:Cn 1:Lo 1:Cn 1:Lo 1:Cn 1:Lo 1:Cn 3:Lo 1:Cn 2:Lo 1:Cn 1:Lo "
  ++ "2:Cn 1:Lo 1:Cn 1:Lo 1:Cn 1:Lo 1:Cn 1:Lo 1:Cn 1:Lo 1:Cn 2:Lo 1:Cn 1:Lo 2:Cn 4:Lo 1:Cn 7:Lo 1:Cn "
  ++ "4:Lo 1:Cn 4:Lo 1:Cn 1:Lo 1:Cn A:Lo 1:Cn H:Lo 5:Cn 3:Lo 1:Cn 5:Lo 1:Cn H:Lo 1G:Cn 2:Sm 7I:Cn "
  ++ "18:So 4:Cn 2S:So C:Cn F:So 2:Cn F:So 1:Cn F:So 1:Cn 11:So A:Cn D:No 4H:So 1K:Cn T:So D:Cn 18:So "
  ++ "4:Cn 9:So 7:Cn 2:So E:Cn 6:So 4A:Cn 6Z:So 5:Sk K8:So 4:Cn H:So 3:Cn D:So 3:Cn 3B:So 4:Cn 2N:So "
  ++ "6:Cn C:So 4:Cn 1:So F:Cn C:So 4:Cn 1K:So 8:Cn A:So 6:Cn 14:So 8:Cn U:So 2:Cn C:So 4:Cn 2:So "
  ++ "1Q:Cn 9G:So C:Cn E:So 2:Cn D:So 3:Cn A:So 5:Cn 1K:So 7:Cn F:So 2:Cn B:So 6:Cn 9:So 7:Cn 43:So "
  ++ "1:Cn 2K:So A:Nd SM:Cn WYO:Lo W:Cn 37E:Lo 6:Cn 66:Lo 2:Cn 4G2:Lo E:Cn 5RL:Lo F:Cn HA:Lo 1WI:Cn "
  ++ "F2:Lo 15U:Cn 3T7:Lo 5:Cn 38G:Lo F975:Cn 1:Cf U:Cn 2O:Cf 3K:Cn 6O:Mn 1E6O:Cn 1EKE:Co 2:Cn "
  ++ "1EKE:Co 2:Cn"

def categoryRuns : Array (Nat × Category) :=
  (decodeRuns categoryText).map fun (start, v) => (start, (Category.ofCode? v).getD .unassigned)

def categoryOf (c : Nat) : Category := runAt categoryRuns c .unassigned

def categoryRanges (p : Category → Bool) : Ranges := runsWhere categoryRuns p

end Unicode

end MonitorWire
