import MonitorWire.Unicode.Table

namespace MonitorWire

namespace Unicode

inductive JoiningType where
  | nonJoining
  | joinCausing
  | dualJoining
  | leftJoining
  | rightJoining
  | transparent
  deriving DecidableEq, Repr, Inhabited

def JoiningType.ofCode : String → JoiningType
  | "C" => .joinCausing
  | "D" => .dualJoining
  | "L" => .leftJoining
  | "R" => .rightJoining
  | "T" => .transparent
  | _ => .nonJoining

def joiningText : String :=
  "4T:T GI+33:T 7N+6:T 7B+18:T 1:T 1+1:T 1+1:T 1:T 20+A:T 1:T 3:D 1+3:R 0:D 0:R 0:D 0:R 0+4:D "
  ++ "0+3:R 0+C:D 0:C 0+6:D 0:R 0+1:D 0+K:T E+1:D 0:T 0+2:R 1+2:R 0+F:D 0+H:R 0+11:D 0:R 0+1:D 0+8:R "
  ++ "0:D 0:R 0:D 0:R 0+1:D 0+1:R 1:R 0+6:T 2+5:T 2+1:T 1+3:T 0+1:R A+2:D 2:D F:T 0:R 0:T 0+2:D 0+4:R "
  ++ "0+3:D 0:R 0+8:D 0:R 0:D 0:R 0:D 0:R 0+1:D 0:R 0+Q:T 2:R 0+A:D 0+2:R 0+E:D 0+1:R 0+3:D 0:R 0:D "
  ++ "0+1:R 0+2:D 0+1:R 0+5:D 12+A:T P+W:D 0+8:T 6:C 2:T O+3:T 1+8:T 1+2:T 1+4:T I:R 0+4:D 0+1:R 0:D "
  ++ "0:R 0+9:D 0:R 0:D 0+2:R 0+2:T 4:D 1+3:D 1:R 0:D 0+1:R 5+I:R 0+2:C 0:D 2+4:D 0:R 0:D 7+8:T 0+9:D "
  ++ "0+2:R 1:R 0+1:D 0+1:R 0+5:D 0:R 0+E:D 1+N:T 1+V:T 1J:T 1:T 4+7:T 4:T 3+6:T A+1:T T:T 1M:T 4+3:T "
  ++ "8:T K+1:T Q:T 2+1:T 1L:T 4+1:T 4+1:T 2+2:T 3:T U+1:T 3:T B+1:T 1L:T 4+4:T 1+1:T 4:T K+1:T M+5:T "
  ++ "1:T 1M:T 2:T 1+3:T 8:T 7+1:T B+1:T U:T 1P:T C:T 1E:T 3:T 1J:T 1+2:T 5+2:T 1+3:T 7+1:T B+1:T T:T "
  ++ "1M:T 2:T 6:T 5+1:T K+1:T S+1:T 1L+1:T 4+3:T 8:T K+1:T T:T 20:T 7+2:T 1:T 2I:T 2+6:T C+7:T 2Q:T "
  ++ "2+8:T B+6:T 21+1:T R:T 1:T 1:T 1J+D:T 1+4:T 1+1:T 5+A:T 1+Z:T 9:T 2U+3:T 1+5:T 1+1:T 2+1:T "
  ++ "P+1:T 4+2:T G+3:T D:T 2+1:T 6:T F:T JJ+2:T QA+2:T T+1:T U+1:T U+1:T 1S+1:T 1+6:T 8:T 2+A:T 9:T "
  ++ "15:D 2:C 0+2:T 1:T G+2G:D C+1:T 0+X:D 0:T 0:D 39+2:T 4+1:T 9:T 6+2:T 63+1:T 2:T 1M:T 1+6:T 1:T "
  ++ "1:T 2+7:T 6+9:T 2:T 1C+19:T 2+B:T K+3:T 1C:T 1+4:T 1:T 5:T 14+8:T C+1:T W+3:T 2+1:T 1+2:T 1K:T "
  ++ "1+1:T 3:T 1+2:T 1M+7:T 2+1:T 48+2:T 1+C:T 1+6:T 4:T 6:T 3+1:T 5I+1R:T EJ:T 1:C 0+1:T Q+4:T "
  ++ "1D+4:T 5+5:T 2O+W:T 2DA+2:T 3X:T 2O+V:T FE+3:T 2Z+1:T N9W+3:T 1+9:T W+1:T 28+1:T 7K:T 3:T 4:T "
  ++ "P+1:T 5:T J+1D:D 0:L 29+1:T Q+H:T D:T 12+7:T P+A:T 1A+2:T 1C:T 2+3:T 2+1:T 13:T 1V+5:T 2+1:T "
  ++ "2+1:T C:T 8:T 1B:T 1F:T 1+2:T 2+1:T 5+1:T 1:T 16+1:T 8:T 6M:T 2:T 4:T FN4:T KH+F:T G+F:T 5R:T "
  ++ "6X+2:T E9:T 6A:T 45+4:T 1AE+2:T 1+1:T 5+3:T 14+2:T 4:T 3K+4:D 0:R 1:R 1+1:R 2:L 0+4:R 0+3:D 0:L "
  ++ "0+4:D 0:R 0+2:D 0:R 2:R 0+1:T 4+3:D 0:R 40:D 0:R 0:D 0+2:R 0+2:D 0:R 0+1:D 0:R 0:D 0+1:R 0:D "
  ++ "0:R N+3:R 0+1:D 9D:L 0+W:D 0:R 0:D 0+3:T 1T+4:T 8T+1:T L:R 0+1:D 1+1:D 1E+5:T 1C+2:D 0:R 0+G:D "
  ++ "1+A:T 0+2:D 0:R R+3:D 0+1:R 0+B:D 0+3:T 16:D 1+1:D 0+2:R 1:D 0+1:R 0+1:D 0:R 0+1:D 1:D 0+1:R "
  ++ "0:D 4:R 0:D 0:L 1H:T 1I+E:T 15:T 2+1:T A+2:T 1D+3:T 2+1:T 7:T 1P+2:T 10+4:T 1+7:T 1Q:T C+1:T "
  ++ "1G+8:T A+3:T 2:T 2N+2:T 2:T 1+1:T 6:T 2:T 4D:T 3+7:T L+1:T 1L+1:T 3:T 11+6:T 3+4:T 1Y+5:T D:T "
  ++ "1:T 1:T E+1:T 2D+7:T 2+2:T 1:T N:T 2C+5:T 1:T 4+1:T 1+1:T 6M+3:T 6+1:T 1+1:T R+1:T 2D+7:T 2:T "
  ++ "1+1:T 2Y:T 1:T 2+5:T 1:T 2T:T 1:T 2+3:T 1+4:T 77+8:T 1+1:T 74+1:T 1:T 4:T 40+3:T 2+1:T 4:T "
  ++ "W+9:T 14+5:T 2+3:T 8:T 9+5:T 2+2:T 1A+C:T 1+1:T 5I:T 1+2:T 1:T 5L+6:T 1+5:T 1:T 2A+L:T 2+6:T "
  ++ "1+1:T 1+1:T 3E+5:T 3:T 1+1:T 1+6:T 1:T 20+1:T 3:T 1:T 9N+1:T B+1:T 1G+4:T 5:T 1:T N:T 445+G:T "
  ++ "6+E:T 8UG+B:T 3+2:T 1XC+4:T 1N+6:T T4:T 1R+3:T 29:T F5K+1:T 1+3:T 3MK+19:T 2+M:T F4+2:T 9+F:T "
  ++ "2+6:T U+3:T 44+2:T 1IZ+1I:T 4+1D:T 8:T E:T M+4:T 1+E:T 11S+6:T 1+G:T 2+6:T 1+1:T 1+4:T 2S:T "
  ++ "4G+6:T AF:T 1P+3:T E4+3:T 72+1:T 6R:T 2:T 7+1:T 5:T D6+6:T 15+1V:D 0+7:T GZAT:T U+2N:T 3K+6N:T"

def joiningRanges : Array (Nat × Nat × JoiningType) :=
  (decodeTagged joiningText).map fun ((a, b), v) => (a, b, JoiningType.ofCode v)

def joiningTypeOf (c : Nat) : JoiningType :=
  let i := lowerBound joiningRanges (c + 1)
  if i = 0 then .nonJoining
  else match joiningRanges[i - 1]? with
    | some (_, b, t) => if c ≤ b then t else .nonJoining
    | none => .nonJoining

end Unicode

end MonitorWire
