import MonitorWire.Unicode.Category
import MonitorWire.Unicode.Property

namespace MonitorWire

namespace Unicode

structure Addition where
  first : Nat
  last : Nat
  category : Category
  alphabetic : Bool
  extendsGrapheme : Bool
  deriving Repr

def additions : List Addition := [
  ⟨0x88F, 0x88F, .otherLetter, true, false⟩,
  ⟨0xC5C, 0xC5C, .otherLetter, true, false⟩,
  ⟨0xCDC, 0xCDC, .otherLetter, true, false⟩,
  ⟨0x1ACF, 0x1ADD, .nonspacingMark, false, true⟩,
  ⟨0x1AE0, 0x1AEB, .nonspacingMark, false, true⟩,
  ⟨0x20C1, 0x20C1, .currencySymbol, false, false⟩,
  ⟨0x2B96, 0x2B96, .otherSymbol, false, false⟩,
  ⟨0xA7CE, 0xA7CE, .uppercaseLetter, true, false⟩,
  ⟨0xA7CF, 0xA7CF, .lowercaseLetter, true, false⟩,
  ⟨0xA7D2, 0xA7D2, .uppercaseLetter, true, false⟩,
  ⟨0xA7D4, 0xA7D4, .uppercaseLetter, true, false⟩,
  ⟨0xA7F1, 0xA7F1, .modifierLetter, true, false⟩,
  ⟨0xFBC3, 0xFBD2, .otherSymbol, false, false⟩,
  ⟨0xFD90, 0xFD91, .otherSymbol, false, false⟩,
  ⟨0xFDC8, 0xFDCE, .otherSymbol, false, false⟩,
  ⟨0x10940, 0x10959, .otherLetter, true, false⟩,
  ⟨0x10EC5, 0x10EC5, .modifierLetter, true, false⟩,
  ⟨0x10EC6, 0x10EC7, .otherLetter, true, false⟩,
  ⟨0x10ED0, 0x10ED0, .otherPunctuation, false, false⟩,
  ⟨0x10ED1, 0x10ED8, .otherSymbol, false, false⟩,
  ⟨0x10EFA, 0x10EFB, .nonspacingMark, true, true⟩,
  ⟨0x11B60, 0x11B60, .nonspacingMark, true, true⟩,
  ⟨0x11B61, 0x11B61, .spacingMark, true, false⟩,
  ⟨0x11B62, 0x11B64, .nonspacingMark, true, true⟩,
  ⟨0x11B65, 0x11B65, .spacingMark, true, false⟩,
  ⟨0x11B66, 0x11B66, .nonspacingMark, true, true⟩,
  ⟨0x11B67, 0x11B67, .spacingMark, true, false⟩,
  ⟨0x11DB0, 0x11DD8, .otherLetter, true, false⟩,
  ⟨0x11DD9, 0x11DD9, .modifierLetter, true, false⟩,
  ⟨0x11DDA, 0x11DDB, .otherLetter, true, false⟩,
  ⟨0x11DE0, 0x11DE9, .decimalNumber, false, false⟩,
  ⟨0x16EA0, 0x16EB8, .uppercaseLetter, true, false⟩,
  ⟨0x16EBB, 0x16ED3, .lowercaseLetter, true, false⟩,
  ⟨0x16FF2, 0x16FF3, .modifierLetter, true, false⟩,
  ⟨0x16FF4, 0x16FF6, .letterNumber, true, false⟩,
  ⟨0x187F8, 0x187FF, .otherLetter, true, false⟩,
  ⟨0x18D09, 0x18D1E, .otherLetter, true, false⟩,
  ⟨0x18D80, 0x18DF2, .otherLetter, true, false⟩,
  ⟨0x1CCFA, 0x1CCFC, .otherSymbol, false, false⟩,
  ⟨0x1CEBA, 0x1CED0, .otherSymbol, false, false⟩,
  ⟨0x1CEE0, 0x1CEEF, .otherSymbol, false, false⟩,
  ⟨0x1CEF0, 0x1CEF0, .mathSymbol, false, false⟩,
  ⟨0x1E6C0, 0x1E6DE, .otherLetter, true, false⟩,
  ⟨0x1E6E0, 0x1E6E2, .otherLetter, true, false⟩,
  ⟨0x1E6E3, 0x1E6E3, .nonspacingMark, true, true⟩,
  ⟨0x1E6E4, 0x1E6E5, .otherLetter, true, false⟩,
  ⟨0x1E6E6, 0x1E6E6, .nonspacingMark, true, true⟩,
  ⟨0x1E6E7, 0x1E6ED, .otherLetter, true, false⟩,
  ⟨0x1E6EE, 0x1E6EF, .nonspacingMark, true, true⟩,
  ⟨0x1E6F0, 0x1E6F4, .otherLetter, true, false⟩,
  ⟨0x1E6F5, 0x1E6F5, .nonspacingMark, true, true⟩,
  ⟨0x1E6FE, 0x1E6FE, .otherLetter, true, false⟩,
  ⟨0x1E6FF, 0x1E6FF, .modifierLetter, true, false⟩,
  ⟨0x1F6D8, 0x1F6D8, .otherSymbol, false, false⟩,
  ⟨0x1F777, 0x1F77A, .otherSymbol, false, false⟩,
  ⟨0x1F8D0, 0x1F8D8, .mathSymbol, false, false⟩,
  ⟨0x1FA54, 0x1FA57, .otherSymbol, false, false⟩,
  ⟨0x1FA8A, 0x1FA8A, .otherSymbol, false, false⟩,
  ⟨0x1FA8E, 0x1FA8E, .otherSymbol, false, false⟩,
  ⟨0x1FAC8, 0x1FAC8, .otherSymbol, false, false⟩,
  ⟨0x1FACD, 0x1FACD, .otherSymbol, false, false⟩,
  ⟨0x1FAEA, 0x1FAEA, .otherSymbol, false, false⟩,
  ⟨0x1FAEF, 0x1FAEF, .otherSymbol, false, false⟩,
  ⟨0x1FBFA, 0x1FBFA, .otherSymbol, false, false⟩,
  ⟨0x2B73A, 0x2B73F, .otherLetter, true, false⟩,
  ⟨0x2CEA2, 0x2CEAD, .otherLetter, true, false⟩,
  ⟨0x323B0, 0x33479, .otherLetter, true, false⟩
]

def additionAt (c : Nat) : Option Addition :=
  additions.find? fun a => a.first ≤ c && c ≤ a.last

namespace Latest

def categoryOf (c : Nat) : Category :=
  match additionAt c with
  | some a => a.category
  | none => Unicode.categoryOf c

def baseAlphabetic : Ranges := propertyRanges "Alphabetic"

def baseGraphemeExtend : Ranges := propertyRanges "Grapheme_Extend"

def isAlphabetic (c : Nat) : Bool :=
  match additionAt c with
  | some a => a.alphabetic
  | none => rangesHold baseAlphabetic c

def extendsGrapheme (c : Nat) : Bool :=
  match additionAt c with
  | some a => a.extendsGrapheme
  | none => rangesHold baseGraphemeExtend c

end Latest

end Unicode

end MonitorWire
