import MonitorWire.Unicode.Table

namespace MonitorWire

namespace Unicode

inductive BidiClass where
  | leftToRight
  | rightToLeft
  | arabicLetter
  | europeanNumber
  | europeanSeparator
  | europeanTerminator
  | arabicNumber
  | commonSeparator
  | nonspacingMark
  | boundaryNeutral
  | paragraphSeparator
  | segmentSeparator
  | whiteSpace
  | otherNeutral
  | leftToRightEmbedding
  | leftToRightOverride
  | rightToLeftEmbedding
  | rightToLeftOverride
  | popDirectionalFormat
  | leftToRightIsolate
  | rightToLeftIsolate
  | firstStrongIsolate
  | popDirectionalIsolate
  deriving DecidableEq, Repr, Inhabited

def BidiClass.ofCode? : String → Option BidiClass
  | "L" => some .leftToRight
  | "R" => some .rightToLeft
  | "AL" => some .arabicLetter
  | "EN" => some .europeanNumber
  | "ES" => some .europeanSeparator
  | "ET" => some .europeanTerminator
  | "AN" => some .arabicNumber
  | "CS" => some .commonSeparator
  | "NSM" => some .nonspacingMark
  | "BN" => some .boundaryNeutral
  | "B" => some .paragraphSeparator
  | "S" => some .segmentSeparator
  | "WS" => some .whiteSpace
  | "ON" => some .otherNeutral
  | "LRE" => some .leftToRightEmbedding
  | "LRO" => some .leftToRightOverride
  | "RLE" => some .rightToLeftEmbedding
  | "RLO" => some .rightToLeftOverride
  | "PDF" => some .popDirectionalFormat
  | "LRI" => some .leftToRightIsolate
  | "RLI" => some .rightToLeftIsolate
  | "FSI" => some .firstStrongIsolate
  | "PDI" => some .popDirectionalIsolate
  | _ => none

def bidiText : String :=
  "9:BN 1:S 1:B 1:S 1:WS 1:B E:BN 3:B 1:S 1:WS 2:ON 3:ET 5:ON 1:ES 1:CS 1:ES 2:CS A:EN 1:CS 6:ON "
  ++ "Q:L 6:ON Q:L 4:ON 6:BN 1:B Q:BN 1:CS 1:ON 4:ET 4:ON 1:L 2:ON 1:BN 2:ON 2:ET 2:EN 1:ON 1:L 3:ON "
  ++ "1:EN 1:L 5:ON N:L 1:ON V:L 1:ON CH:L 2:ON 7:L E:ON 2:L E:ON 5:L 9:ON 1:L H:ON 34:NSM 4:L 2:ON "
  ++ "8:L 1:ON 5:L 2:ON 1:L 1:ON 32:L 1:ON 3W:L 7:NSM 74:L 1:ON 2:L 2:ON 1:ET 1:R 19:NSM 1:R 1:NSM "
  ++ "1:R 2:NSM 1:R 2:NSM 1:R 1:NSM 1K:R 6:AN 2:ON 1:AL 2:ET 1:AL 1:CS 1:AL 2:ON B:NSM 1C:AL L:NSM "
  ++ "A:AN 1:ET 2:AN 3:AL 1:NSM 2T:AL 7:NSM 1:AN 1:ON 6:NSM 2:AL 2:NSM 1:ON 4:NSM 2:AL A:EN N:AL "
  ++ "1:NSM U:AL R:NSM 2J:AL B:NSM F:AL 17:R 9:NSM 2:R 4:ON 3:R 1:NSM O:R 4:NSM 1:R 9:NSM 1:R 3:NSM "
  ++ "1:R 5:NSM 17:R 3:NSM 4:R 1C:AL 2:AN 5:AL 9:NSM 16:AL O:NSM 1:AN W:NSM 1J:L 1:NSM 1:L 1:NSM 4:L "
  ++ "8:NSM 4:L 1:NSM 3:L 7:NSM A:L 2:NSM T:L 1:NSM 1M:L 1:NSM 4:L 4:NSM 8:L 1:NSM K:L 2:NSM E:L 2:ET "
  ++ "7:L 1:ET 2:L 1:NSM 2:L 2:NSM 1L:L 1:NSM 4:L 2:NSM 4:L 2:NSM 2:L 3:NSM 3:L 1:NSM U:L 2:NSM 3:L "
  ++ "1:NSM B:L 2:NSM 1L:L 1:NSM 4:L 5:NSM 1:L 2:NSM 4:L 1:NSM K:L 2:NSM D:L 1:ET 8:L 6:NSM 1:L 1:NSM "
  ++ "1M:L 1:NSM 2:L 1:NSM 1:L 4:NSM 8:L 1:NSM 7:L 2:NSM B:L 2:NSM U:L 1:NSM 1P:L 1:NSM C:L 1:NSM "
  ++ "11:L 6:ON 1:ET 1:ON 5:L 1:NSM 3:L 1:NSM 1J:L 1:NSM 1:L 3:NSM 5:L 3:NSM 1:L 4:NSM 7:L 2:NSM B:L "
  ++ "2:NSM K:L 7:ON 2:L 1:NSM 1M:L 1:NSM F:L 2:NSM K:L 2:NSM S:L 2:NSM 1L:L 2:NSM 4:L 4:NSM 8:L "
  ++ "1:NSM K:L 2:NSM T:L 1:NSM 20:L 1:NSM 7:L 3:NSM 1:L 1:NSM 2I:L 1:NSM 2:L 7:NSM 4:L 1:ET 7:L "
  ++ "8:NSM 2Q:L 1:NSM 2:L 9:NSM B:L 7:NSM 21:L 2:NSM R:L 1:NSM 1:L 1:NSM 1:L 1:NSM 4:ON 1F:L E:NSM "
  ++ "1:L 5:NSM 1:L 2:NSM 5:L B:NSM 1:L 10:NSM 9:L 1:NSM 2U:L 4:NSM 1:L 6:NSM 1:L 2:NSM 2:L 2:NSM P:L "
  ++ "2:NSM 4:L 3:NSM G:L 4:NSM D:L 1:NSM 2:L 2:NSM 6:L 1:NSM F:L 1:NSM JJ:L 3:NSM 1C:L A:ON 2U:L "
  ++ "1:ON HR:L 1:WS Q:L 2:ON 39:L 3:NSM T:L 2:NSM U:L 2:NSM U:L 2:NSM 1S:L 2:NSM 1:L 7:NSM 8:L 1:NSM "
  ++ "2:L B:NSM 7:L 1:ET 1:L 1:NSM I:L A:ON 6:L B:ON 3:NSM 1:BN 1:NSM 39:L 2:NSM Y:L 1:NSM 3A:L 3:NSM "
  ++ "4:L 2:NSM 9:L 1:NSM 6:L 3:NSM 4:L 1:ON 3:L 2:ON 48:L Y:ON N:L 2:NSM 2:L 1:NSM 1M:L 1:NSM 1:L "
  ++ "7:NSM 1:L 1:NSM 1:L 1:NSM 2:L 8:NSM 6:L A:NSM 2:L 1:NSM 1C:L 1A:NSM 2:L C:NSM K:L 4:NSM 1C:L "
  ++ "1:NSM 1:L 5:NSM 1:L 1:NSM 5:L 1:NSM 14:L 9:NSM C:L 2:NSM W:L 4:NSM 2:L 2:NSM 1:L 3:NSM 1K:L "
  ++ "1:NSM 1:L 2:NSM 3:L 1:NSM 1:L 3:NSM 1M:L 8:NSM 2:L 2:NSM 48:L 3:NSM 1:L D:NSM 1:L 7:NSM 4:L "
  ++ "1:NSM 6:L 1:NSM 3:L 2:NSM 5I:L 1S:NSM CD:L 1:ON 1:L 3:ON B:L 3:ON D:L 3:ON D:L 3:ON D:L 2:ON "
  ++ "1:L B:WS 3:BN 1:L 1:R O:ON 1:WS 1:B 1:LRE 1:RLE 1:PDF 1:LRO 1:RLO 1:CS 5:ET F:ON 1:CS Q:ON 1:WS "
  ++ "6:BN 1:LRI 1:RLI 1:FSI 1:PDI 6:BN 1:EN 3:L 6:EN 2:ES 3:ON 1:L A:EN 2:ES 3:ON H:L 1C:ET X:NSM "
  ++ "F:L 2:ON 1:L 4:ON 1:L 2:ON A:L 1:ON 1:L 3:ON 5:L 6:ON 1:L 1:ON 1:L 1:ON 1:L 1:ON 4:L 1:ET B:L "
  ++ "2:ON 4:L 5:ON 5:L 4:ON 2:L G:ON 15:L 3:ON 4:L 3M:ON 1:ES 1:ET 82:ON 1X:L Q:ON 1:L 44:ON M:L "
  ++ "B:ON L:L 14:ON K:EN 26:L CI:ON 1:L 9F:ON 74:L HG:ON 2:L 3U:ON 6D:L 6:ON 4:L 3:NSM 7:L 7:ON 3J:L "
  ++ "1:NSM 2O:L W:NSM 2M:ON Y:L Q:ON 1:L 2H:ON C:L 5Y:ON Q:L G:ON 1:WS 4:ON 3:L P:ON 9:L 4:NSM 2:L "
  ++ "1:ON 5:L 2:ON 5:L 3:ON 2H:L 2:NSM 2:ON 3:L 1:ON 2I:L 1:ON 5G:L 12:ON 9:L 1:ON 19:L 2:ON 1D:L "
  ++ "G:ON S:L 3:ON 1E:L F:ON C:L 4:ON 4N:L 4:ON 2R:L 2:ON V:L 1:ON 534:L 1S:ON H3K:L 1J:ON 92:L 3:ON "
  ++ "2N:L 4:NSM 1:ON A:NSM 2:ON U:L 2:NSM 28:L 2:NSM E:L Y:ON 2U:L 1:ON 3D:L 1:NSM 3:L 1:NSM 4:L "
  ++ "1:NSM P:L 2:NSM 1:L 4:ON 1:NSM B:L 2:ET 1M:L 4:ON 24:L 2:NSM Q:L I:NSM D:L 1:NSM 12:L 8:NSM P:L "
  ++ "B:NSM 1A:L 3:NSM 1C:L 1:NSM 2:L 4:NSM 2:L 2:NSM 13:L 1:NSM 1V:L 6:NSM 2:L 2:NSM 2:L 2:NSM C:L "
  ++ "1:NSM 8:L 1:NSM 1B:L 1:NSM 1F:L 1:NSM 1:L 3:NSM 2:L 2:NSM 5:L 2:NSM 1:L 1:NSM 16:L 2:NSM 8:L "
  ++ "1:NSM 37:L 2:ON 3D:L 1:NSM 2:L 1:NSM 4:L 1:NSM FN3:L 1:R 1:NSM A:R 1:ES 12:R 37:AL G:ON A3:AL "
  ++ "I:ON 1S:AL 2:ON 1I:AL 8:ON W:BN D:AL 3:ON G:NSM A:ON 6:L G:NSM W:ON 1:CS 1:ON 1:CS 1:L 1:ON "
  ++ "1:CS 9:ON 1:ET 2:ON 2:ES 3:ON 1:L 1:ON 2:ET 1:ON 4:L 3Z:AL 1:BN 1:L 2:ON 3:ET 5:ON 1:ES 1:CS "
  ++ "1:ES 2:CS A:EN 1:CS 6:ON Q:L 6:ON Q:L B:ON 3E:L 2:ET 3:ON 2:ET 1:L 7:ON 1:L 9:BN 5:ON 2:BN 75:L "
  ++ "1:ON 1Q:L 25:ON 3:L D:ON 3:L 1:ON 2K:L 1:NSM 6A:L 1:NSM R:EN 3E:L 5:NSM W5:L 7Z:R 1:ON 69:R "
  ++ "3:NSM 1:R 2:NSM 5:R 4:NSM 14:R 3:NSM 4:R 1:NSM 4L:R 2:NSM 2A:R 7:ON CG:R 10:AL 4:NSM 8:AL A:AN "
  ++ "6:AL A:AN V:R 5:NSM 6Q:R V:AN 18:R 2:NSM J:R G:AL 9:ON X:AL 6:NSM 1C:R M:AL B:NSM V:AL I:R "
  ++ "4:NSM 3E:R 1:L 1:NSM 1I:L F:NSM B:L K:ON A:L 1:NSM 2:L 2:NSM A:L 3:NSM 1D:L 4:NSM 2:L 2:NSM 7:L "
  ++ "1:NSM 1P:L 3:NSM 10:L 5:NSM 1:L 8:NSM 1Q:L 1:NSM C:L 2:NSM 1G:L 9:NSM A:L 4:NSM 2:L 1:NSM 2N:L "
  ++ "3:NSM 2:L 1:NSM 1:L 2:NSM 6:L 1:NSM 2:L 1:NSM 4D:L 1:NSM 3:L 8:NSM L:L 2:NSM 1L:L 2:NSM 3:L "
  ++ "1:NSM 11:L 7:NSM 3:L 5:NSM 1Y:L 6:NSM D:L 1:NSM 1:L 1:NSM 1:L 1:NSM E:L 2:NSM 2D:L 8:NSM 2:L "
  ++ "3:NSM 1:L 1:NSM N:L 1:NSM 2C:L 6:NSM 1:L 1:NSM 4:L 2:NSM 1:L 2:NSM 6M:L 4:NSM 6:L 2:NSM 1:L "
  ++ "2:NSM R:L 2:NSM 2D:L 8:NSM 2:L 1:NSM 1:L 2:NSM V:L D:ON 1Q:L 1:NSM 1:L 1:NSM 2:L 6:NSM 1:L "
  ++ "1:NSM 2T:L 3:NSM 2:L 4:NSM 1:L 5:NSM 77:L 9:NSM 1:L 2:NSM 74:L 2:NSM 1:L 1:NSM 4:L 1:NSM 40:L "
  ++ "4:NSM 2:L 2:NSM 4:L 1:NSM W:L 6:NSM 2:L 2:NSM 14:L 6:NSM 2:L 4:NSM 8:L 1:NSM 9:L 6:NSM 2:L "
  ++ "3:NSM 1A:L D:NSM 1:L 2:NSM 5I:L 1:NSM 1:L 3:NSM 1:L 1:NSM 5L:L 7:NSM 1:L 6:NSM 2C:L M:NSM 2:L "
  ++ "7:NSM 1:L 2:NSM 1:L 2:NSM 3E:L 6:NSM 3:L 1:NSM 1:L 2:NSM 1:L 7:NSM 1:L 1:NSM 20:L 2:NSM 3:L "
  ++ "1:NSM 1:L 1:NSM 9N:L 2:NSM B:L 2:NSM 1G:L 5:NSM 5:L 1:NSM 1:L 1:NSM N:L 1:NSM 3E:L 8:ON 4:ET "
  ++ "H:ON 40E:L 1:NSM 6:L F:NSM 8UG:L C:NSM 3:L 3:NSM 1XC:L 5:NSM 1N:L 7:NSM T4:L 1:NSM 1R:L 4:NSM "
  ++ "27:L 1:ON 1:L 1:NSM F5K:L 2:NSM 1:L 4:BN 318:L 6O:ON A:EN 3:ON 3:L C4:ON 6:L N:ON F:L H:ON F:L "
  ++ "1A:NSM 2:L N:NSM F4:L 3:NSM 9:L 8:BN 8:NSM 2:L 7:NSM U:L 4:NSM 1N:L 2:ON L:L 1U:ON 3:NSM 1:ON "
  ++ "56:L 2F:ON P0:L 1:ON 1L:L 1:ON 1L:L 1:ON 1L:L 1:ON 1L:L 1:ON A:L 1E:EN E8:L 1J:NSM 4:L 1E:NSM "
  ++ "8:L 1:NSM E:L 1:NSM M:L 5:NSM 1:L F:NSM 11S:L 7:NSM 1:L H:NSM 2:L 7:NSM 1:L 2:NSM 1:L 5:NSM "
  ++ "2S:L 1:NSM 4G:L 7:NSM AF:L 1:NSM 1P:L 4:NSM F:L 1:ET DO:L 4:NSM 72:L 2:NSM 6R:L 1:NSM 2:L 1:NSM "
  ++ "7:L 2:NSM 5:L 1:NSM 7E:L 5S:R 7:NSM 31:R 7:NSM MD:R 28:AL 1S:R 28:AL 4W:R 6O:AL 2:ON E:AL 74:R "
  ++ "18:ON 4:L 2S:ON C:L F:ON 2:L F:ON 1:L F:ON 1:L 11:ON A:L B:EN 5:ON V:L 1:ON 1M:L 6:ON 1P:L 1:ON "
  ++ "4Y:L 6:ON 4A:L RD:ON 3:L H:ON 3:L D:ON 3:L 62:ON 6:L C:ON 4:L 1:ON F:L C:ON 4:L 1K:ON 8:L A:ON "
  ++ "6:L 14:ON 8:L U:ON 2:L C:ON 4:L 2:ON E:L 9:ON 13:L 9K:ON 8:L E:ON 2:L D:ON 3:L B:ON 3:L 1L:ON "
  ++ "1:L 1:ON 4:L G:ON 2:L C:ON 4:L A:ON 7:L 43:ON 1:L 2K:ON A:EN 1:ON SJ:L 2:BN 1EKE:L 2:BN 1EKE:L "
  ++ "2:BN 1EKE:L 2:BN 1EKE:L 2:BN 1EKE:L 2:BN 1EKE:L 2:BN 1EKE:L 2:BN 1EKE:L 2:BN 1EKE:L 2:BN 1EKE:L "
  ++ "2:BN 1EKE:L 2:BN 1EKE:L 76:BN 6O:NSM 2S0:BN 1BEM:L 2:BN 1EKE:L 2:BN 1EKE:L 2:BN"

def bidiRuns : Array (Nat × BidiClass) :=
  (decodeRuns bidiText).map fun (start, v) => (start, (BidiClass.ofCode? v).getD .leftToRight)

def bidiClassOf (c : Nat) : BidiClass := runAt bidiRuns c .leftToRight

end Unicode

end MonitorWire
