import MonitorWire.Unicode.Table

namespace MonitorWire

namespace Unicode

def binaryProperties : List (String × String) := [
  ("ASCII_Hex_Digit",
    "1C+9 7+5 Q+5"),
  ("Alphabetic",
    "1T+P 6+P 1B A 4 5+M 1+U 1+CP 4+B E+4 7 1 2E T+H 1+1 2+3 1 6 1+2 1 1+J 1+2A 1+3U 8+4L 1+11 2 "
    ++ "6+14 13+D 1 1+1 1+1 1 8+Q 4+3 T+A 5+1J 1+6 E+2T 1+7 4+7 4+2 A+2 2 G+1B D+2S O+W 9+1 4 5+N 2+I "
    ++ "J+O 7+A 5+N 1+5 8 8+15 A+B 3+6 6+23 1+F 1+2 4+E D+I 1+7 2+1 2+L 1+6 1 3+3 3+7 2+1 2+1 1 8 4+1 "
    ++ "1+4 C+1 A 4+2 1+5 4+1 2+L 1+6 1+1 1+1 1+1 4+4 4+1 2+1 4 7+3 1 H+5 B+2 1+8 1+2 1+L 1+6 1+1 1+4 "
    ++ "3+8 1+2 1+1 3 F+3 L+3 4+2 1+7 2+1 2+L 1+6 1+1 1+4 3+7 2+1 2+1 9+1 4+1 1+4 D G+1 1+5 3+2 1+3 3+1 "
    ++ "1 1+1 3+1 3+2 3+B 4+4 3+2 1+2 3 6 14+C 1+2 1+M 1+F 3+7 1+2 1+2 8+1 1+2 2 2+3 S+3 1+7 1+2 1+M "
    ++ "1+9 1+4 3+7 1+2 1+2 8+1 6+1 1+3 D+2 C+C 1+2 1+14 2+7 1+2 1+2 1 5+3 7+4 M+5 1+2 1+H 3+N 1+8 1 "
    ++ "2+6 8+5 1 1+7 I+1 D+1L 5+6 6 1F+1 1 1+4 1+N 1 1+I 1+2 2+4 1 6 E+3 W 1R+7 1+Z 4+I 4+F 1+Z 1V+1I "
    ++ "1 2+4 G+1R A+3 2+11 1 5 2+16 1+98 1+3 2+6 1 1+3 2+14 1+3 2+W 1+3 2+6 1 1+3 2+E 1+1K 1+3 2+1U "
    ++ "11+F G+2D 2+5 3+H7 2+G 1+P 5+22 3+A 7+J B+K C+J C+C 1+2 1+1 C+1F 2+I E 4 1V+2G 7+16 5+1X A+U "
    ++ "1+B 4+8 N+T 2+4 B+17 4+P 1I+R 4+1Q 2+J 1E N+1 B+2 1D+1F 1+E 1+7 1F+15 2+3 A+17 1+A E+1I M+2 A+Z "
    ++ "2+A 5+16 2+2 15+3 1+5 1+1 3 5+5B J+X B+7P 2+5 2+11 2+5 2+7 1 1 1 1+U 2+1G 1+6 1 3+2 1+6 3+3 2+5 "
    ++ "4+C 5+2 1+6 38 D G+C 2T 4 2+9 1 3+4 6 1 1 1+3 1+A 2+3 5+4 4 H+14 ML+1F 1EE+6C 6+3 3+1 C+11 1 5 "
    ++ "2+1J 7 G+M 9+6 1+6 1+6 1+6 1+6 1+6 1+6 1+6 1+V 1B D1+2 P+8 7+4 2+4 4+2D 6+2 1+2H 1+3 5+16 1+2L "
    ++ "H+V 1C+F E8+533 1S+H3G 1V+19 2+7G 3+F A+1 K+1A 5+7 3+34 13+8 2+2U 2+1U 2+1 1 1+7 L+J 1+W O+1F "
    ++ "C+1V 1 18+5 3 1+2 A+W 5+Y D+S 3+1E 1+B F G+F A+4 1+1I 9+D I+M 3+1W 1 1 O+2 2+F 2+3 B+5 2+5 2+5 "
    ++ "9+6 1+6 1+16 1+D 6+3E L+8MB C+M 4+1C 6IS+A5 2+2X 12+6 C+4 5+B 1+C 1+4 1 1+1 1+1 1+2Z X+A2 I+1R "
    ++ "2+1H 14+B 38+4 1+3Q 10+P 6+P B+2G 3+5 2+5 2+5 2+2 Z+B 1+P 1+I 1+1 1+E 2+D Y+3E 1X+1G 7F+S 3+1C "
    ++ "1B+V D+T 5+16 5+T 2+Z 4+7 1+4 16+4D I+Z 4+Z 4+13 8+1F C+A 1+E 1+6 1+1 1+A 1+E 1+6 1+1 3+1F C+8M "
    ++ "9+L A+7 O+5 1+15 1+8 1X+5 2 1+17 1+1 3 2+M A+M 9+U 1T+I 1+1 A+L A+P 1Y+1J 6+1 1S+3 1+1 5+7 1+2 "
    ++ "1+S 16+S 3+S Z+7 1+R R+1H A+L A+I D+H 32+20 1J+1E D+1E D+13 Y+R 3 5+M 6Y+15 1+1 3+1 G+2 1J 3+S "
    ++ "A 8+L 16+H 1A+K R+M 9+1X 17+4 A+1K 9 D+O N+1E H+3 8+Y 3 9+1R 1+3 9+1 A 1 Z+H 1+X 2 6+3 1Q+6 1 "
    ++ "1+3 1+E 1+9 7+1K N+3 1+7 2+1 2+L 1+6 1+1 1+4 3+7 2+1 2+1 3 6 5+6 S+9 1 2 1+11 1+9 1 2 1+3 1+1 3 "
    ++ "1 18+1T 1+2 1+3 K+2 U+1T 2+1 1 54+1H 2+6 P+5 Y+1Q 1 3 1N+1H 2 1Z+Q 2+D L+6 55+1K 2V+1R V+7 2 "
    ++ "2+7 1+1 1+T 1+1 2+1 2+3 2L+7 2+19 2+5 1 1+1 R+1E 2+9 H+1Z 5 I+20 5J+W V+8 1+18 1+6 1 1D+T 2+L "
    ++ "1+D 21+6 1+1 1+17 3 1+1 1+2 1 2+1 O+5 1+1 1+10 1+1 1+3 1 93+M 9+G 1+14 3+2 33 27+PL 2U+32 H+5F "
    ++ "218+2O F+TR H+5 P+32Y 5+G6 5A1+1A 1CH+FS 7+U H+26 H+T I+1B G+3 V+K 5+I C0+18 5V+1R 3K+22 4+1K "
    ++ "7+G 1S+1 1 C+1 E+4QF 8+YD 15+9 6W7+3 1+6 1+1 1+82 F T+2 2 E+3 8+AZ 1S4+2Y 5+C 3+8 7+9 4 4M9+2C "
    ++ "1+1Y 1+1 2 2+1 2+3 1+B 1 1+6 1+1S 1+3 2+7 1+6 1+R 1+3 1+4 1 3+6 1+9F 2+O 1+O 1+U 1+O 1+U 1+O "
    ++ "1+U 1+O 1+U 1+O 1+7 1F8+U 6+5 5X+6 1+G 2+6 1+1 1+4 5+1P X 34+18 A+6 G 8X+T I+17 DG+R 6C+T 2 "
    ++ "DR+6 1+3 1+1 1+E 1+5G 1N+1V 3 3 XG+3 1+Q 1+1 1 2 1+9 1+3 1 1 6 4 1 1 1+2 1+1 1 2 1 1 1 1 1+1 1 "
    ++ "2+3 1+6 1+3 1+3 1 1+9 1+G 5+2 1+4 1+G HG+P 6+P 6+P 2UU+WYN W+37D 6+65 2+4G1 E+5RK F+H9 1WI+F1 "
    ++ "15U+3T6 5+38F"),
  ("Bidi_Control",
    "17G 54H+1 Q+4 1J+3"),
  ("Bidi_Mirrored",
    "14+1 I 1 S 1 T 1 19 F 2V2+3 1GD+1 1WC+1 A+1 1I+1 E+1 4X 5C+3 3+5 3 3+1 3+3 1+3 1 1 4+8 5 1+H "
    ++ "5+3 9+1 1 1+7 1+V 2+3 5 9+1 2+I 5+1 9+4 2+1 4+N 2+F 8+3 K+1 7+1 U5+D 22 2+3 1+1 1+2 5+3 5+2 3+D "
    ++ "B7+L 2+5 1+D 8 7+5 3 4+4 1+1 2+4 4 1+2 2+1 A+5 2+1 C+I 1+3 2 1 2 1+3 5+1 6+2 O+1 B+1 4+3 1+1 "
    ++ "2+1 4+16 2+7 1+13 5 1 3+4 5+2 4 3+4 1 74 EB+3 3+1 1+1 E+1 2+9 17+7 BV+9 2+7 14QL+5 5+1 4I+1 I 1 "
    ++ "S 1 T 1 1+1 1+1 16K7 1L 1L 1L 1L"),
  ("Case_Ignorable",
    "13 6 B Z 1 1Z 4 1 4 2+1 DZ+5B 4+1 4 9+1 1 6Z+6 5R 5 1D+18 1 1+1 1+1 1 18 B+5 A+A 1 Z A+K G 2T+7 "
    ++ "1+9 1+3 X 1 U+Q 2J+A 1M+A 4 2 O+N 17+2 18 7+1 5+8 15+1L 1J 1 4+7 4 3+6 A+1 D F 1M 4+3 8 K+1 Q "
    ++ "2+1 1L 4+1 4+1 2+2 3 U+1 3 B+1 1L 4+4 1+1 4 K+1 M+5 1 1M 2 1+3 8 7+1 B+1 U 1P C 1E 3 1J 1+2 5+2 "
    ++ "1+3 7+1 B+1 T 1M 2 6 5+1 K+1 S+1 1L+1 4+3 8 K+1 T 20 7+2 1 2I 2+6 B+8 2Q 2+8 9 1+6 21+1 R 1 1 "
    ++ "1J+D 1+4 1+1 5+A 1+Z 9 2U+3 1+5 1+1 2+1 P+1 4+2 G+3 D 2+1 6 F 2M GW+2 QA+2 T+1 U+1 U+1 1S+1 1+6 "
    ++ "8 2+A 3 5 19+4 1F 1T+1 Y 3A+2 4+1 9 6+2 63+1 2 1M 1+6 1 1 2+7 6+9 2 13 8+U 1D+3 1C 1+4 1 5 14+8 "
    ++ "C+1 W+3 2+1 1+2 1K 1+1 3 1+2 1M+7 2+1 1S+5 2A+2 1+C 1+6 4 6 3+1 1E+1Q D Y+2S CD 1+2 B+2 D+2 D+2 "
    ++ "D+1 C+4 8+1 A 2 2+4 1D+4 1+9 1 D G+C 1F+W 2A3+1 35+2 3H F 2O+V 1B D1 10+3 3+4 5 2L+5 2L+2 LXY "
    ++ "YQ+5 7I 2Q+3 1+9 1 S+3 28+1 E+X 26 N+2 2V+2 3+1 8 3 4 P+1 5 47+1 Q+H D 12+7 P+A 1A+2 1C 2+3 2+1 "
    ++ "H L+1 1U+5 2+1 2+1 C 8 Z B 1F 1+2 2+1 5+1 1 R E+1 5+1 1 2S+4 9+2 3D 2 4 FN4 43+G FX+F 3 C+F Y 2 "
    ++ "4P 7 6 B Z 1 1B 19+1 1V L+2 E9 6A 45+4 SL+5 1+15 1+8 G6+2 1+1 5+3 14+2 4 4L+1 FX+3 12 Q+4 1 "
    ++ "8R+1 27+3 1Y+A 1D+3 3F 1I+E 15 2+1 A+2 1D+3 2+1 2 4 A 1E+2 10+4 1+7 1Q C+1 1G+8 A+3 2 2N+2 2 "
    ++ "1+1 6 2 4D 3+7 L+1 1L+1 3 11+6 3+4 1Y+5 D 1 1 E+1 2D+7 2+2 1 N 2C+5 1 4+1 1+1 6M+3 6+1 1+1 R+1 "
    ++ "2D+7 2 1+1 2Y 1 2+5 1 2T 1 2+3 1+4 77+8 1+1 74+1 1 4 40+3 2+1 4 W+9 14+5 2+3 8 9+5 2+2 1A+C 1+1 "
    ++ "BA+6 1+5 1 2A+L 2+6 1+1 1+1 3E+5 3 1+1 1+6 1 20+1 3 1 9N+1 B+1 1G+4 5 1 N 445+G 6+E 8UG+B 3+2 "
    ++ "1XC+4 1N+6 9+3 E4+2 14+1 DE 1R+G 1S+1 1+1 CNF+3 1+6 1+1 2HQ+1 1+3 3MK+19 2+M F4+2 9+F 2+6 U+3 "
    ++ "44+2 1IZ+1I 4+1D 8 E M+4 1+E 11S+6 1+G 2+6 1+1 1+4 5+1P X 4G+D A8 1P+3 E3+4 72+1 KG+6 31+7 "
    ++ "23Z+4 GX6P U+2N 3K+6N"),
  ("Cased",
    "1T+P 6+P 1B A 4 5+M 1+U 1+5E 1+3 4+5R 2+Y 7+1 U+4 2O 16+3 2+1 2+3 1 6 1+2 1 1+J 1+2A 1+3U 8+4L "
    ++ "1+11 9+14 26V+11 1 5 2+16 1+3 IO+2D 2+5 1OI+A 5+16 2+2 1S+5B 1S+7P 2+5 2+11 2+5 2+7 1 1 1 1+U "
    ++ "2+1G 1+6 1 3+2 1+6 3+3 2+5 4+C 5+2 1+6 38 D G+C 2T 4 2+9 1 3+4 6 1 1 1+3 1+5 4 2+3 5+4 4 H+V "
    ++ "3+1 MP+1F 1EE+6C 6+3 3+1 C+11 1 5 NWY+19 I+T 3O+2T 3+3 1+1P 2+1 1 1+7 L+4 1+2 MT+16 1+D 6+27 "
    ++ "FNK+6 C+4 SP+P 6+P X1+27 2O+Z 4+Z 38+A 1+E 1+6 1+1 1+A 1+E 1+6 1+1 CJ 2+2 1+15 1+8 XX+1E D+1E "
    ++ "2L+L A+L 26Y+1R GV4+1R K1S+2C 1+1Y 1+1 2 2+1 2+3 1+B 1 1+6 1+1S 1+3 2+7 1+6 1+R 1+3 1+4 1 3+6 "
    ++ "1+9F 2+O 1+O 1+U 1+O 1+U 1+O 1+U 1+O 1+U 1+O 1+7 1F8+9 1+J 6+5 79+1P 1OY+1V 1KC+P 6+P 6+P"),
  ("Changes_When_Casefolded",
    "1T+P 2I A+M 1+7 W 1 1 1 1 1 1 1 1 1 1 1 1 1 1 1 1 1 1 1 1 1 1 1 1 1 1 1 2 1 1 1 1 1 1 1 1+1 1 1 "
    ++ "1 1 1 1 1 1 1 1 1 1 1 1 1 1 1 1 1 1 1 1 1+1 1 1 1 1+1 1 1+1 1+2 2+3 1+1 1+2 3+1 1+1 1 1 1+1 1 2 "
    ++ "1+1 1+2 1 1+1 3 7+1 1+1 1+1 1 1 1 1 1 1 1 1 2 1 1 1 1 1 1 1 1 2+1 1 1+2 1 1 1 1 1 1 1 1 1 1 1 1 "
    ++ "1 1 1 1 1 1 1 1 1 1 1 1 1 1 1 1 1 7+1 1+1 2 1+3 1 1 1 1 6U 16 1 3 8 6 1+2 1 1+1 1+G 1+8 M C+2 "
    ++ "3+1 1 1 1 1 1 1 1 1 1 1 1 1 1+1 2+1 1 1+1 2+1E 1C 1 1 1 1 1 1 1 1 1 1 1 1 1 1 1 1 9 1 1 1 1 1 1 "
    ++ "1 1 1 1 1 1 1 1 1 1 1 1 1 1 1 1 1 1 1 1 1+1 1 1 1 1 1 1 2 1 1 1 1 1 1 1 1 1 1 1 1 1 1 1 1 1 1 1 "
    ++ "1 1 1 1 1 1 1 1 1 1 1 1 1 1 1 1 1 1 1 1 1 1 1 1 1 1 1 1 2+11 1C 26W+11 1 5 MI+5 1OI+9 6+16 2+2 "
    ++ "8W 1 1 1 1 1 1 1 1 1 1 1 1 1 1 1 1 1 1 1 1 1 1 1 1 1 1 1 1 1 1 1 1 1 1 1 1 1 1 1 1 1 1 1 1 1 1 "
    ++ "1 1 1 1 1 1 1 1 1 1 1 1 1 1 1 1 1 1 1 1 1 1 1 1 1 1 1 1 5+1 2 1 1 1 1 1 1 1 1 1 1 1 1 1 1 1 1 1 "
    ++ "1 1 1 1 1 1 1 1 1 1 1 1 1 1 1 1 1 1 1 1 1 1 1 1 1 1 1 1 1 1 1 9+7 8+5 A+7 8+7 8+5 B 1 1 1 8+7 "
    ++ "G+1B 2+2 2+5 5+2 2+5 B+3 C+4 5+2 2+5 89 3+1 6 19+F J MQ+P 1F4+1B 1C 1+2 2 1 1 1+3 1 2 8+2 1 1 1 "
    ++ "1 1 1 1 1 1 1 1 1 1 1 1 1 1 1 1 1 1 1 1 1 1 1 1 1 1 1 1 1 1 1 1 1 1 1 1 1 1 1 1 1 1 1 1 1 1 8 1 "
    ++ "4 NYL 1 1 1 1 1 1 1 1 1 1 1 1 1 1 1 1 1 1 1 1 1 1 J 1 1 1 1 1 1 1 1 1 1 1 1 1 3R 1 1 1 1 1 1 3 "
    ++ "1 1 1 1 1 1 1 1 1 1 1 1 1 1 1 1 1 1 1 1 1 1 1 1 1 1 1 1 1 1 A 1 1+1 1 1 1 1 4 1 2 1 3 1 1 1 1 1 "
    ++ "1 1 1 1 1+4 1+4 1 1 1 1 1 1 1 1+3 1 1+1 3 5 1 1 1 O OQ+27 FNK+6 C+4 SP+P XX+13 3S+Z 4C+A 1+E "
    ++ "1+6 1+1 1D6+1E 4D+L 27U+V GW0+V O80+X"),
  ("Changes_When_Casemapped",
    "1T+P 6+P 1M A+M 1+U 1+1R 1+2B 1+R 2+D 2+1 1 4+2K 1+H 6+Q 1+1 1 1+1 3+1 1+3 1+4 2 1+1 2 7 2 1+1 "
    ++ "3+5 5 A+1 4M 16+3 2+1 3+2 1 6 1+2 1 1+J 1+1A 3+W 1+4 1+3O 8+4L 1+11 A+12 26W+11 1 5 2+16 2+2 "
    ++ "IO+2D 2+5 1OI+A 5+16 2+2 55 3 G 35+4B 2 1+39 2+5 2+11 2+5 2+7 1 1 1 1+U 2+1G 1+6 1 3+2 1+6 3+3 "
    ++ "2+5 4+C 5+2 1+6 89 3+1 6 R H+V 3+1 MP+1F 1EE+34 1+1 1+1 7+2T 7+3 3+1 C+11 1 5 NWY+19 I+R 3Q+D "
    ++ "2+1P 9+E 3+2 2+4 1+O 1+T 2+1 1 1+7 O+1 NW S+27 FNK+6 C+4 SP+P 6+P X1+27 2O+Z 4+Z 38+A 1+E 1+6 "
    ++ "1+1 1+A 1+E 1+6 1+1 1C3+1E D+1E 2L+L A+L 26Y+1R GV4+1R O74+1V"),
  ("Changes_When_Lowercased",
    "1T+P 2T+M 1+6 X 1 1 1 1 1 1 1 1 1 1 1 1 1 1 1 1 1 1 1 1 1 1 1 1 1 1 1 2 1 1 1 1 1 1 1 2 1 1 1 1 "
    ++ "1 1 1 1 1 1 1 1 1 1 1 1 1 1 1 1 1 1 1+1 1 1 3+1 1 1+1 1+2 2+3 1+1 1+2 3+1 1+1 1 1 1+1 1 2 1+1 "
    ++ "1+2 1 1+1 3 7+1 1+1 1+1 1 1 1 1 1 1 1 1 2 1 1 1 1 1 1 1 1 2+1 1 1+2 1 1 1 1 1 1 1 1 1 1 1 1 1 1 "
    ++ "1 1 1 1 1 1 1 1 1 1 1 1 1 1 1 7+1 1+1 2 1+3 1 1 1 1 81 1 3 8 6 1+2 1 1+1 1+G 1+8 Z 8 1 1 1 1 1 "
    ++ "1 1 1 1 1 1 5 2 1+1 2+1E 1C 1 1 1 1 1 1 1 1 1 1 1 1 1 1 1 1 9 1 1 1 1 1 1 1 1 1 1 1 1 1 1 1 1 1 "
    ++ "1 1 1 1 1 1 1 1 1 1+1 1 1 1 1 1 1 2 1 1 1 1 1 1 1 1 1 1 1 1 1 1 1 1 1 1 1 1 1 1 1 1 1 1 1 1 1 1 "
    ++ "1 1 1 1 1 1 1 1 1 1 1 1 1 1 1 1 1 2+11 289+11 1 5 K2+2D 1OZ 6+16 2+2 8W 1 1 1 1 1 1 1 1 1 1 1 1 "
    ++ "1 1 1 1 1 1 1 1 1 1 1 1 1 1 1 1 1 1 1 1 1 1 1 1 1 1 1 1 1 1 1 1 1 1 1 1 1 1 1 1 1 1 1 1 1 1 1 1 "
    ++ "1 1 1 1 1 1 1 1 1 1 1 1 1 1 9 1 1 1 1 1 1 1 1 1 1 1 1 1 1 1 1 1 1 1 1 1 1 1 1 1 1 1 1 1 1 1 1 1 "
    ++ "1 1 1 1 1 1 1 1 1 1 1 1 1 1 1 9+7 8+5 A+7 8+7 8+5 B 1 1 1 8+7 O+7 8+7 8+7 8+4 B+4 B+3 C+4 B+4 "
    ++ "89 3+1 6 19+F J MQ+P 1F4+1B 1C 1+2 2 1 1 1+3 1 2 8+2 1 1 1 1 1 1 1 1 1 1 1 1 1 1 1 1 1 1 1 1 1 "
    ++ "1 1 1 1 1 1 1 1 1 1 1 1 1 1 1 1 1 1 1 1 1 1 1 1 1 1 1 1 8 1 4 NYL 1 1 1 1 1 1 1 1 1 1 1 1 1 1 1 "
    ++ "1 1 1 1 1 1 1 J 1 1 1 1 1 1 1 1 1 1 1 1 1 3R 1 1 1 1 1 1 3 1 1 1 1 1 1 1 1 1 1 1 1 1 1 1 1 1 1 "
    ++ "1 1 1 1 1 1 1 1 1 1 1 1 A 1 1+1 1 1 1 1 4 1 2 1 3 1 1 1 1 1 1 1 1 1 1+4 1+4 1 1 1 1 1 1 1 1+3 1 "
    ++ "1+1 3 5 1 1 1 O H7V+P XX+13 3S+Z 4C+A 1+E 1+6 1+1 1D6+1E 4D+L 27U+V GW0+V O80+X"),
  ("Changes_When_Titlecased",
    "2P+P 1M 15+N 1+7 1 1 1 1 1 1 1 1 1 1 1 1 1 1 1 1 1 1 1 1 1 1 1 1 1 1 1 1 2 1 1 1 1 1 1 1+1 1 1 "
    ++ "1 1 1 1 1 1 1 1 1 1 1 1 1 1 1 1 1 1 1 1 1 2 1 1+2 2 1 2 3 5 2 3+2 2 2 1 1 2 4 2 3 1 2 3 1 4 1+1 "
    ++ "1+1 1 1 1 1 1 1 1 1 1+1 1 1 1 1 1 1 1 1 1+2 1 1 3 1 1 1 1 1 1 1 1 1 1 1 1 1 1 1 1 1 1 1 3 1 1 1 "
    ++ "1 1 1 1 1 8 2+1 1 4 1 1 1 1+5 1+1 1 1+1 3+1 1+3 1+4 2 1+1 2 7 2 1+1 3+5 5 A+1 4M 17 1 3 3+2 I "
    ++ "R+Y 1+1 3+2 1 1 1 1 1 1 1 1 1 1 1 1+4 1 2 2 1G+1B 1 1 1 1 1 1 1 1 1 1 1 1 1 1 1 1 1 9 1 1 1 1 1 "
    ++ "1 1 1 1 1 1 1 1 1 1 1 1 1 1 1 1 1 1 1 1 1 2 1 1 1 1 1 1+1 1 1 1 1 1 1 1 1 1 1 1 1 1 1 1 1 1 1 1 "
    ++ "1 1 1 1 1 1 1 1 1 1 1 1 1 1 1 1 1 1 1 1 1 1 1 1 1 1 1 1 1 1D+12 2UO+5 1OI+8 1 6M 3 G 36 1 1 1 1 "
    ++ "1 1 1 1 1 1 1 1 1 1 1 1 1 1 1 1 1 1 1 1 1 1 1 1 1 1 1 1 1 1 1 1 1 1 1 1 1 1 1 1 1 1 1 1 1 1 1 1 "
    ++ "1 1 1 1 1 1 1 1 1 1 1 1 1 1 1 1 1 1 1 1 1 1+6 5 1 1 1 1 1 1 1 1 1 1 1 1 1 1 1 1 1 1 1 1 1 1 1 1 "
    ++ "1 1 1 1 1 1 1 1 1 1 1 1 1 1 1 1 1 1 1 1 1 1 1+8 8+5 A+7 8+7 8+5 A+7 8+7 8+D 2+7 8+7 8+7 8+4 1+1 "
    ++ "6 3+2 1+1 8+3 2+1 8+7 A+2 1+1 9I X+F 4 NF+P 1FQ+1B 1 3+1 1 1 1 6 2 A 1 1 1 1 1 1 1 1 1 1 1 1 1 "
    ++ "1 1 1 1 1 1 1 1 1 1 1 1 1 1 1 1 1 1 1 1 1 1 1 1 1 1 1 1 1 1 1 1 1 1 1 1 8 1 4 C+11 1 5 NWZ 1 1 "
    ++ "1 1 1 1 1 1 1 1 1 1 1 1 1 1 1 1 1 1 1 1 J 1 1 1 1 1 1 1 1 1 1 1 1 1 3R 1 1 1 1 1 1 3 1 1 1 1 1 "
    ++ "1 1 1 1 1 1 1 1 1 1 1 1 1 1 1 1 1 1 1 1 1 1 1 1 1 A 1 2 1 1 1 1 4 4 1+1 2 1 1 1 1 1 1 1 1 1 B 1 "
    ++ "1 1 1 1 1 1 4 1 2 3 1 1 1 1 1 Q NW S+27 FNK+6 C+4 TL+P Y5+13 3S+Z 4B+A 1+E 1+6 1+1 1DV+1E 3H+L "
    ++ "27U+V GW0+V O82+X"),
  ("Changes_When_Uppercased",
    "2P+P 1M 15+N 1+7 1 1 1 1 1 1 1 1 1 1 1 1 1 1 1 1 1 1 1 1 1 1 1 1 1 1 1 1 2 1 1 1 1 1 1 1+1 1 1 "
    ++ "1 1 1 1 1 1 1 1 1 1 1 1 1 1 1 1 1 1 1 1 1 2 1 1+2 2 1 2 3 5 2 3+2 2 2 1 1 2 4 2 3 1 2 3 1 5+1 "
    ++ "1+1 1+1 1 1 1 1 1 1 1 1+1 1 1 1 1 1 1 1 1 1+1 1+1 1 3 1 1 1 1 1 1 1 1 1 1 1 1 1 1 1 1 1 1 1 3 1 "
    ++ "1 1 1 1 1 1 1 8 2+1 1 4 1 1 1 1+5 1+1 1 1+1 3+1 1+3 1+4 2 1+1 2 7 2 1+1 3+5 5 A+1 4M 17 1 3 3+2 "
    ++ "I R+Y 1+1 3+2 1 1 1 1 1 1 1 1 1 1 1 1+4 1 2 2 1G+1B 1 1 1 1 1 1 1 1 1 1 1 1 1 1 1 1 1 9 1 1 1 1 "
    ++ "1 1 1 1 1 1 1 1 1 1 1 1 1 1 1 1 1 1 1 1 1 1 2 1 1 1 1 1 1+1 1 1 1 1 1 1 1 1 1 1 1 1 1 1 1 1 1 1 "
    ++ "1 1 1 1 1 1 1 1 1 1 1 1 1 1 1 1 1 1 1 1 1 1 1 1 1 1 1 1 1 1 1D+12 288+16 2+2 L4+5 1OI+8 1 6M 3 "
    ++ "G 36 1 1 1 1 1 1 1 1 1 1 1 1 1 1 1 1 1 1 1 1 1 1 1 1 1 1 1 1 1 1 1 1 1 1 1 1 1 1 1 1 1 1 1 1 1 "
    ++ "1 1 1 1 1 1 1 1 1 1 1 1 1 1 1 1 1 1 1 1 1 1 1 1 1 1 1 1 1+6 5 1 1 1 1 1 1 1 1 1 1 1 1 1 1 1 1 1 "
    ++ "1 1 1 1 1 1 1 1 1 1 1 1 1 1 1 1 1 1 1 1 1 1 1 1 1 1 1 1 1 1+8 8+5 A+7 8+7 8+5 A+7 8+7 8+D 2+1G "
    ++ "1+1 4 1 3+2 1+1 4 3+3 2+1 8+7 A+2 1+1 4 9D X+F 4 NF+P 1FQ+1B 1 3+1 1 1 1 6 2 A 1 1 1 1 1 1 1 1 "
    ++ "1 1 1 1 1 1 1 1 1 1 1 1 1 1 1 1 1 1 1 1 1 1 1 1 1 1 1 1 1 1 1 1 1 1 1 1 1 1 1 1 1 8 1 4 C+11 1 "
    ++ "5 NWZ 1 1 1 1 1 1 1 1 1 1 1 1 1 1 1 1 1 1 1 1 1 1 J 1 1 1 1 1 1 1 1 1 1 1 1 1 3R 1 1 1 1 1 1 3 "
    ++ "1 1 1 1 1 1 1 1 1 1 1 1 1 1 1 1 1 1 1 1 1 1 1 1 1 1 1 1 1 1 A 1 2 1 1 1 1 4 4 1+1 2 1 1 1 1 1 1 "
    ++ "1 1 1 B 1 1 1 1 1 1 1 4 1 2 3 1 1 1 1 1 Q NW S+27 FNK+6 C+4 TL+P Y5+13 3S+Z 4B+A 1+E 1+6 1+1 "
    ++ "1DV+1E 3H+L 27U+V GW0+V O82+X"),
  ("Dash",
    "19 124 1F 2TD SL 1L5+5 1P 13 F AU 2DG 2 V+1 4 S CE J 33 14LS+1 11 A 4P 2U8 8U"),
  ("Default_Ignorable_Code_Point",
    "4T IP JW 282+1 18Z+1 2D+4 1KR+4 Q+4 1D+F 3CK 14EZ+F 6N 4G 27+8 119J+3 43Z+7 H405+35R"),
  ("Deprecated",
    "95 10P 1S3 1 1M1+1 1QD+5 JD+1 JH06"),
  ("Diacritic",
    "2M 1 1Z 6 4 2+1 DZ+4E 1+7 5+5 H+1 4 9+1 71+4 5T 1J+18 1 1+1 1+1 1 3N+7 4+1 3Q+1 4+1 3+2 1V+Q "
    ++ "2J+A 1M+A Y+1 3I+7 15+9 G+R 1P G 3+3 S 22 G 32 G 32 G 1B+2 1O G 7 3B 32 G 32 G 31+1 G 3G 33 C+5 "
    ++ "1 2Z D+4 23+1 R 1 1 4+1 1U+2 1+1 1Q 34 1+1 14+1 4+4 P+6 1 A+1 JL+2 QC+1 U 44+A 9 9N+2 84 K+7 2 "
    ++ "1C+E 2+A 2W F 12+8 1I+1 1M B+1 1U+1 1S+5 2A+O 4 6 2+2 1E+1Q 1C+Z 5+B 11+A CD 1+2 B+2 D+2 D+2 "
    ++ "D+1 2K0+2 8T E2+5 2X+3 2N N76 C+1 1 S+1 2A+1 E+X 2U+2 31+1 C 11 47 R+H 1L+3 10 2N C 10 45+2 "
    ++ "1T+3 1F 2S+4 9+2 3K+1 FN4 LD+F 7I 1 1B 19+1 1V L8 WV+5 1+15 1+8 HP+2 4 4L+1 FV+5 12 Q+4 B3+2 "
    ++ "1Y+A 1D+3 5C 15 20+1 3C+1 1Q 24 9+2 2W+1 4Y+1 28+1 G O+6 3+4 2H+2 1+1 D+1 2N 3 3F+1 6Z+1 3I "
    ++ "3A+1 37 7H+1 76+1 4 4C 2B I 29 BP 76 1+1 29 BT+1 N 44S+E 8UX 1XC+4 1N+6 FO+1 F6+G 28+1 CN2+3 "
    ++ "1+6 1+1 64H+19 2+M F4+2 3+5 8+7 2+6 U+3 2V6+1P 5E+6 AF 1P+3 LA+1 KG+6 31+2 1+2"),
  ("Emoji",
    "Z 6 5+9 33 4 68D C 60 M 2I+5 F+1 A7+1 C 4M P+A 4+2 5J 6F+1 A 9 1M+3 1+4 9 2 2+1 2 4 2 1+1 2 3 "
    ++ "3+1 8+2 5 1 5+B B+1 2 1+1 1 I 2+1 I+5 1 1+1 3+1 5 2+1 4+1 B+1 5+1 2 5+1 1 1+1 K+1 5+5 1+3 2 4 2 "
    ++ "2+5 1 2 1 1 6 3 6 A+1 F 2 4 1 4+2 1 B+1 1C+2 9 E E AC+1 CV+2 J+1 1F 4 YI C GP 1 2FZE 5M 4G+1 "
    ++ "C+1 E 2+9 23+P 1+1 N K 2+8 L+1 4U+X 2+33 2+1 1+2 2+2A 2+2 1+7A 1+1Q B+5 1+N 7+1 2+7 C 2+3 2 4+1 "
    ++ "D+1 2 8+1 9 5+2 C+2 8+2 2 1 4 6 3 6+2D 1C+1X 5+7 2+2 4+9 3 1+1 3 2+9 6B+B 4 7V+1A 1+9 1+54 34+C "
    ++ "3+9 5+1J 7+E 2+A 6+8"),
  ("Emoji_Component",
    "Z 6 5+9 6AB 5X 17OR 1C5Y+P E3+4 14G+3 GW30+2N"),
  ("Emoji_Modifier",
    "2QRF+4"),
  ("Emoji_Modifier_Base",
    "7J1 63 G+3 2IYF 1O+2 2 2+2 39+1 2+A L+I 3 4+2 1+2 7 1 O 5L+1 4 L 4+1 4U+2 3+4 2B G+2 9 B FZ 2 "
    ++ "8+7 6 9+9 2+2 1K 1P+1 1+1 1 H+2 1+C 6D+2 16+8"),
  ("Emoji_Presentation",
    "6XM+1 5P+3 3 2 EH+1 L+1 1E+B 17 J D 8+1 H+1 5+1 8 5 L 7+1 1 4 2 7 4+1 S Z 1 4+2 1 1P+2 O E NV+1 "
    ++ "1F 4 2HF2 5M 5A 2+9 23+P 1 O K 2+4 1+2 L+1 4U+W C+8 1+1X 1+L C+16 4+4 C+G 3 3+1Y 1 1+56 2+1Q "
    ++ "D+3 1+N I Q+1 D 2E+2C 1C+1X 6 3+2 2+2 4+3 B+1 7+8 6B+B 4 7V+1A 1+9 1+54 34+C 3+9 5+1J 7+E 2+A "
    ++ "6+8"),
  ("Extended_Pictographic",
    "4P 4 68D C 60 M 2I+5 F+1 A7+1 C 4M P+A 4+2 5J 6F+1 A 9 1M+3 1+4 9 2 2+1 2 4 2 1+1 2 3 3+1 8+2 5 "
    ++ "1 5+B B+1 2 1+1 1 I 2+1 I+5 1 1+1 3+1 5 2+1 4+1 B+1 5+1 2 5+1 1 1+1 K+1 5+5 1+3 2 4 2 2+5 1 2 1 "
    ++ "1 6 3 6 A+1 F 2 4 1 4+2 1 B+1 1C+2 9 E E AC+1 CV+2 J+1 1F 4 YI C GP 1 2FZE 13+3 2S+B F+1 F E+1 "
    ++ "11+9 34+1 C+1 E 2+9 J+1J R+E A K 2+8 1+3 9+M 6+57 2+33 2+1 1+2 2+2A 2+2 1+3 5+71 1+1Q B+5 1+N "
    ++ "7+1 2+7 C 2+3 2 4+1 D+1 2 8+1 9 5+2 C+2 8+2 2 1 4 6 3 6+2D 1C+1X 5+7 2+2 1+C 3 1+5 2+C 62+11 "
    ++ "C+3 1K+7 A+5 14+7 U+1 C+3 2+D 9+12 C+1A 1+9 1+54 2G+7 E+R 1+2 1+1K 1+3 1+R 1+3 1+F 74+SD"),
  ("Extender",
    "53 EW+1 OE C9 HI 3T 2H KW 3J 1TV 1K GZ B2 1W 3UX 17+4 2V+1 2L+2 LXY 16E QQ M 3T 30 L+1 GOR "
    ++ "1LC+1 157 R 4 XZ 85 38+1 DU+2 Y7 FXL+1 WS+1 1 ME0+1 XD NO+2"),
  ("Grapheme_Base",
    "W+2M X+C 1+GH 34+7 2+5 4+6 1 1+J 1+67 7+4L 1+11 2+1D 2+2 1A 1 2 2 9+Q 4+5 H+9 B 1+19 L+F 1+2S 8 "
    ++ "6+1 2 4+V 2 1+T T+2G B E+16 9+6 3+N 4 9 3 7+E 1+O 5 1+A 5+U H+15 1L+1I 1 1+3 8+3 1+2 7+9 2+S "
    ++ "1+1 1+7 2+1 2+L 1+6 1 3+3 3 1+1 6+1 2+1 1 D+1 1+2 4+N 5 1+5 4+1 2+L 1+6 1+1 1+1 1+1 4+2 O+3 1 "
    ++ "7+9 2+2 1 C 1+8 1+2 1+L 1+6 1+1 1+4 3+3 8 1+1 3 F+1 4+B 7 8+1 1+7 2+1 2+L 1+6 1+1 1+4 3 2 6+1 "
    ++ "2+1 F+1 1+2 4+H B 1+5 3+2 1+3 3+1 1 1+1 3+1 3+2 3+B 5 1+1 3+2 1+2 3 L+K 6+2 1+7 1+2 1+M 1+F 3 "
    ++ "3+3 J+2 2 2+1 4+9 7+9 1+A 1+2 1+M 1+9 1+4 3+1 2 1+1 O+1 1+1 4+9 1+2 E+A 1+2 1+14 2 1+1 5+2 1+2 "
    ++ "1+1 4+2 1+9 4+P 2+1 1+H 3+N 1+8 1 2+6 9+1 6+6 7+9 2+2 C+1B 1+1 B+7 8+C 11+1 1 1+4 1+N 1 1+9 1+1 "
    ++ "9 2+4 1 9+9 2+3 W+N 2+Q 1 1 1+D 1+Z I 5 2+4 1D+7 1+5 1+C 11+18 4 6 2+1 2+O 2+3 3+F 4+C 1+1 2+5 "
    ++ "1+E 1+13 1 5 2+AG 1+3 2+6 1 1+3 2+14 1+3 2+W 1+3 2+6 1 1+3 2+E 1+1K 1+3 2+1U 5+S 3+P 6+2D 2+5 "
    ++ "2+IK 3+2G 7+H D+I 3+1 9+H E+C 1+2 F+1F 2 7+7 1+1 B+8 3+9 6+9 6+A 5+9 6+2G 7+4 2+X 1 5+1X A+U "
    ++ "4+3 2+2 4+1 1+5 7 3+15 2+4 B+17 4+P 6+A 3+1K 2+1 3+1J 1 9 1+1 8+5 D+9 6+9 6+D 2E+1B A+3 3+7 1+S "
    ++ "9+B 2+V 4+1 6+1J 1 2+2 1 D+1B 8+1 5+E 3+1P 5+16 2+A B D 7+3 1+5 1+2 2 5+5B 1S+7P 2+5 2+11 2+5 "
    ++ "2+7 1 1 1 1+U 2+1G 1+E 1+D 2+5 1+I 2+2 1+8 1+A 5+N 7+1C G+1 2+Q 1+C 3+W 1R+3V 4+IH M+A L+1EB "
    ++ "2+V 1+9J 3+1 5+18 1 5 2+1J 7+1 F+M 9+6 1+6 1+6 1+6 1+6 1+6 1+6 1+6 X+2L Y+P 1+2G C+5X Q+1L 6+F "
    ++ "1+2D 4+2S 5+16 1+2L 1+2D 9+1B 1+MLO 3+1I 9+9N K+1A 4 A+V 2+27 2+5 8+5P 2+1 1 1+7 L+F 1+2 1+3 "
    ++ "1+O 2+4 4+9 6+1J 8+1V A+B O+C 1+11 8+O B C+T 6+1B 1+1 4+1 2+1 1+C 1+A 4+6 1+O 1+14 6+1 2+1 B+2 "
    ++ "1+7 1 2+9 2+V 1+1E 1 3+1 2+4 2 1 O+G 2+7 B+5 2+5 2+5 9+6 1+6 1+1N 4+38 1+1 1+3 3+9 6+8MB C+M "
    ++ "4+1C 6IS+A5 2+2X 12+6 C+4 5 1+N 1+4 1 1+1 1+1 1+3G G+CC 2+1H 7 W+F G+9 M+Y 1+I 1+3 4+4 1+3Q "
    ++ "4+4C 2+U 3+5 2+5 2+5 2+2 3+6 1+6 D+1 2+B 1+P 1+I 1+1 1+E 2+D Y+3E 5+2 4+18 3+2F 1+C 3 1B+18 "
    ++ "3N+S 3+1C G+Q 4+Z 9+T 5+11 A+T 1+10 4+D 16+4D 2+9 6+Z 4+Z 4+13 8+1F B+B 1+E 1+6 1+1 1+A 1+E 1+6 "
    ++ "1+1 3+1F C+8M 9+L A+7 O+5 1+15 1+8 1X+5 2 1+17 1+1 3 2+M 1+1Z 8+8 1C+I 1+1 5+W 3+Q 5 1S+1J 4+J "
    ++ "2+1A F+3 1+2 1+S A+8 7+8 7+1R W+10 6+B 9+1H 3+S 2+Q 5+P 7+3 C+6 28+20 1J+1E D+1E 7+15 C+9 6+11 "
    ++ "8+N 8+1 5S+U 1+15 3 2+1 G+2 1N+13 8+L B+8 M+H 4+3 12+R K+M 9 1+1H F+6 4+T 1+1 2 C+1C 4+1 2+1 "
    ++ "1+3 E+O 7+9 9+Z 5 9+H 8+Y 1+2 B+1F 9 1+7 4+1 1+F 1+J B+H 1+R 3+1 4+5 1+1 1R+6 1 1+3 1+E 1+A "
    ++ "6+1A 1+2 D+9 8+1 1+7 2+1 2+L 1+6 1+1 1+4 3 1 1+3 2+1 2+1 3 C+6 S+9 1 2 1+11 1 1+1 F 1+1 3 1+2 "
    ++ "1+1 13+1J 8+1 3 1+K 1 1+2 U+1B 1+1 6 1+1 1 2 2+3 8+9 4M+1A 1+1 6+3 2 2+Q 10+1E 8+1 1 2+3 B+9 "
    ++ "6+C J+16 1 1+1 8+1 6+9 6+J S+Q 3 1+1 4 9+M 55+1A 9 2 2S+2A C+7 2 2+7 1+1 1+N 1+4 1+1 6+3 1+2 "
    ++ "9+9 1Y+7 2+15 8+3 1+3 R A+13 6+1 4+7 9 6+1 3+19 D 2+8 D+20 7+9 52+X E+9 6+8 1+11 E 1+5 A+S 3+V "
    ++ "P 7 2 23+6 1+1 1+11 L 9+9 6+5 1+1 1+10 4+1 1 1 7+9 8M+I 2+3 9+E 1+Z 8+1 3+M 2E F+1D D+PM 2U+32 "
    ++ "1+4 B+5F 218+2Q D+TR H+5 P+32Y 5+G6 5A1+T C+2 3+9 1C6+FS 7+U 1+9 4+28 1+9 6+T 7 A+1B 7+E A+9 "
    ++ "1+6 1+K 5+I C0+1L 5I+2I 2T+22 5+1J B+C 1S+3 S+4QF 8+YD 15+9 6W7+3 1+6 1+1 1+82 F T+2 2 E+3 8+AZ "
    ++ "1S4+2Y 5+C 3+8 7+9 2 2 31C+6X 6+C3 4C+37 1O+6T A+12 2+1N 5+2 M+1 7+T 4+1O L+1T 3 3E+J C+J C+2E "
    ++ "9+O 3R+2C 1+1Y 1+1 2 2+1 2+3 1+B 1 1+6 1+1S 1+3 2+7 1+6 1+R 1+3 1+4 1 3+6 1+9F 2+83 2+FL 1J+3 "
    ++ "1E+7 1+D 1+6 VO+U 6+5 79+1P 42+18 A+6 2+9 4+1 8W+T I+17 4+9 5 CW+R 4+9 5Y+T 2+A 4 DC+6 1+3 1+1 "
    ++ "1+E 1+5G 2+8 1C+1V 7 4+9 4+1 LT+1V 24+1O 5E+3 1+Q 1+1 1 2 1+9 1+3 1 1 6 4 1 1 1+2 1+1 1 2 1 1 1 "
    ++ "1 1+1 1 2+3 1+6 1+3 1+3 1 1+9 1+G 5+2 1+4 1+G 1G+1 7I+17 4+2R C+E 2+E 1+E 1+10 A+4T 1K+S D+17 "
    ++ "4+8 7+1 E+5 4A+RB 4+G 3+C 3+3A 4+2M 6+B 4 F+B 4+1J 8+9 6+13 8+T 2+B 4+1 1Q+9F C+D 2+C 3+9 5+1J "
    ++ "7+E 2+A 6+8 7+42 1+2T SM+WYN W+37D 6+65 2+4G1 E+5RK F+H9 1WI+F1 15U+3T6 5+38F"),
  ("Grapheme_Extend",
    "LC+33 7N+6 7B+18 1 1+1 1+1 1 20+A 1C+K G 2T+6 2+5 2+1 1+3 Z U+Q 2J+A 1M+8 9 O+3 1+8 1+2 1+4 "
    ++ "17+2 1N+8 16+N 1+V 1J 1 4+7 4 3+6 A+1 T 1M 1 2+3 8 9 A+1 Q 2+1 1L 4+1 4+1 2+2 3 U+1 3 B+1 1L "
    ++ "4+4 1+1 4 K+1 M+5 1 1M 1+1 1+3 8 7+2 A+1 U 1N 1 C 9 14 3 1J 1+2 5+2 1+3 7+1 B+1 T 1M 2+1 1 3+2 "
    ++ "1+3 7+1 B+1 S+1 1L+1 1 2+3 8 9 A+1 T 20 4 2+2 1 8 29 2+6 C+7 2Q 2+8 B+6 21+1 R 1 1 1J+D 1+4 1+1 "
    ++ "5+A 1+Z 9 2U+3 1+5 1+1 2+1 P+1 4+2 G+3 D 2+1 6 F JJ+2 QA+3 S+2 T+1 U+1 1S+1 1+6 8 2+A 9 19+2 1 "
    ++ "39+1 Y 3A+2 4+1 9 6+2 63+1 2 1M 1+6 1 1 2+7 6+9 2 1C+U 1D+3 1C+9 4+2 12+8 C+1 W+3 2+5 1K 1+1 3 "
    ++ "1+4 1K+7 2+1 48+2 1+C 1+6 4 6 3+1 5I+1R EK 5F+W 2DA+2 3X 2O+V FE+5 2X+1 N9W+3 1+9 W+1 28+1 7K 3 "
    ++ "4 P+1 5 47+1 Q+H D 12+7 P+A 1 18+2 1C 2+3 2+1 2 10 1V+5 2+1 2+1 C 8 1B 1F 1+2 2+1 5+1 1 16+1 8 "
    ++ "6M 2 4 FN4 KH+F G+F A6+1 GT 6A 45+4 1AE+2 1+1 5+3 14+2 4 4L+1 FX+3 1T+4 8T+1 27+3 1Y+A 1D+3 3F "
    ++ "1I+E 15 2+1 A+2 1D+3 2+1 7 1P+2 10+4 1+7 1Q C+1 1G+8 1 8+3 2 2N+2 2+3 6 2 4D 3+7 L+1 1L+1 1 1 C "
    ++ "9 E+6 3+4 1V 2+5 1 2 1+2 4+2 1 E+1 2D+7 2+2 1 N 29 2+5 1 2 1+1 1+1 6J 2+3 6+1 1+1 R+1 2D+7 2 "
    ++ "1+1 2Y 1 2+7 2T 1 2+3 1+4 77+8 1+1 6T A+3 4 40+3 2+1 4 W+9 14+5 2+3 8 9+5 2+2 1A+C 1+1 BA+6 1+5 "
    ++ "1 2A+L 2+6 1+1 1+1 3E+5 3 1+1 1+6 1 20+1 3 1 9N+1 B+1 1G+4 5+2 N 44L 6+E 8UG+B 3+2 1XC+4 1N+6 "
    ++ "T4 1R+3 29 B+1 F57+1 3MP+19 2+M F2+4 3+5 8+7 2+6 U+3 44+2 1IZ+1I 4+1D 8 E M+4 1+E 11S+6 1+G 2+6 "
    ++ "1+1 1+4 2S 4G+6 AF 1P+3 E4+3 72+1 KG+6 31+6 GZBP+2N 3K+6N"),
  ("Grapheme_Link",
    "1U5 3J 3J 3J 3J 3J 3J 3J 31+1 G 3G 33 3J 5L 50+1 1CP+1 U 4D I5 6B 2T+1 1Y+1 3GR O7A 11 47 3Y 30 "
    ++ "8L 6U IMP 16U 15 E 1L 3D+1 3V 38 50 2Q 3K+2 35 3J 70 3J 3A 38 7H 77+1 4H 2B I 29 BP 78+1 29 "
    ++ "BT+1 D0S"),
  ("Hex_Digit",
    "1C+9 7+5 Q+5 1EAX+9 7+5 Q+5"),
  ("Hyphen",
    "19 3J YK 3NF 1L5+1 2RP KJ 14KN 4P 2F"),
  ("IDS_Binary_Operator",
    "9GW+1 2+9 DT"),
  ("IDS_Trinary_Operator",
    "9GY+1"),
  ("IDS_Unary_Operator",
    "9HA+1"),
  ("ID_Compat_Math_Continue",
    "4Y+1 5 69I 3+A 1+E AB 4 M 2E8Y P V P V P V P V P"),
  ("ID_Compat_Math_Start",
    "6PU 4 M 2E8Y P V P V P V P V P"),
  ("ID_Continue",
    "1C+9 7+P 4 1+P 1B A 1 2 5+M 1+U 1+CP 4+B E+4 7 1 H+38 1+1 2+3 1 6+4 1 1+J 1+2A 1+3U 1+4 2+4L "
    ++ "1+11 2 6+14 8+18 1 1+1 1+1 1 8+Q 4+3 T+A 5+21 4+2T 1+7 2+9 1+I 2 G+1M 2+2S E+1H 4 2 2+19 I+R "
    ++ "4+A 5+N 1+5 8+22 1+3K 2+9 1+I 1+7 2+1 2+L 1+6 1 3+3 2+8 2+1 2+3 8 4+1 1+4 2+B A 1 2+2 1+5 4+1 "
    ++ "2+L 1+6 1+1 1+1 1+1 2 1+4 4+1 2+2 3 7+3 1 7+F B+2 1+8 1+2 1+L 1+6 1+1 1+4 2+9 1+2 1+2 2 F+3 2+9 "
    ++ "9+6 1+2 1+7 2+1 2+L 1+6 1+1 1+4 2+8 2+1 2+2 7+2 4+1 1+4 2+9 1 G+1 1+5 3+2 1+3 3+1 1 1+1 3+1 3+2 "
    ++ "3+B 4+4 3+2 1+3 2 6 E+9 G+C 1+2 1+M 1+F 2+8 1+2 1+3 7+1 1+2 2 2+3 2+9 G+3 1+7 1+2 1+M 1+9 1+4 "
    ++ "2+8 1+2 1+3 7+1 6+1 1+3 2+9 1+2 C+C 1+2 1+1E 1+2 1+4 5+3 7+4 2+9 A+5 1+2 1+H 3+N 1+8 1 2+6 3 "
    ++ "4+5 1 1+7 6+9 2+1 D+1L 5+E 1+9 13+1 1 1+4 1+N 1 1+M 2+4 1 1+6 1+9 2+3 W N+1 6+9 B 1 1 4+9 1+Z "
    ++ "4+J 1+H 1+Z 9 1L+21 6+25 2+11 1 5 2+16 1+98 1+3 2+6 1 1+3 2+14 1+3 2+W 1+3 2+6 1 1+3 2+E 1+1K "
    ++ "1+3 2+1U 2+2 9+8 E+F G+2D 2+5 3+H7 2+G 1+P 5+22 3+A 7+L 9+L B+J C+C 1+2 1+1 C+2B 3 4+1 2+9 X+2 "
    ++ "1+A 6+2G 7+16 5+1X A+U 1+B 4+B A+13 2+4 B+17 4+P 6+A 11+R 4+1Q 1+S 2+A 6+9 D 8+D 1+F 1D+24 3+9 "
    ++ "H+8 C+37 C+1J 8+9 3+1C 2+A 5+16 2+2 G+2 1+12 5+ET 2+5 2+11 2+5 2+7 1 1 1 1+U 2+1G 1+6 1 3+2 1+6 "
    ++ "3+3 2+5 4+C 5+2 1+6 F+1 1D+1 J S D G+C 1F+C 4 3+B H 4 2+9 1 2+5 6 1 1 1+F 2+3 5+4 4 H+14 22F+6C "
    ++ "6+8 C+11 1 5 2+1J 7 F+N 9+6 1+6 1+6 1+6 1+6 1+6 1+6 1+6 1+V ED+2 P+E 1+4 2+4 4+2D 2+6 1+2M 5+16 "
    ++ "1+2L H+V 1C+F E8+533 1S+H3G 1V+19 2+7G 3+R K+1B 4+9 1+36 11+8 2+2U 2+1U 2+1 1 1+7 L+1H 4 J+1F "
    ++ "C+1X A+9 6+N 3 1+1C 2+Z C+S 3+1S E+A 6+U 1+1I 9+D 2+9 6+M 3+20 O+2 2+F 2+4 A+5 2+5 2+5 9+6 1+6 "
    ++ "1+16 1+D 6+3E 1+1 2+9 6+8MB C+M 4+1C 6IS+A5 2+2X 12+6 C+4 5+B 1+C 1+4 1 1+1 1+1 1+2Z X+A2 I+1R "
    ++ "2+1H 14+B 4+F G+F 3+1 O+2 W+4 1+3Q J+9 7+P 4 1+P A+2H 3+5 2+5 2+5 2+2 Z+B 1+P 1+I 1+1 1+E 2+D "
    ++ "Y+3E 1X+1G 3S 3M+S 3+1C F V+V D+T 5+16 5+T 2+Z 4+7 1+4 16+4D 2+9 6+Z 4+Z 4+13 8+1F C+A 1+E 1+6 "
    ++ "1+1 1+A 1+E 1+6 1+1 3+1F C+8M 9+L A+7 O+5 1+15 1+8 1X+5 2 1+17 1+1 3 2+M A+M 9+U 1T+I 1+1 A+L "
    ++ "A+P 1Y+1J 6+1 1S+3 1+1 5+7 1+2 1+S 2+2 4 W+S 3+S Z+7 1+T P+1H A+L A+I D+H 32+20 1J+1E D+1E D+13 "
    ++ "8+9 6+11 3+4 1+M 6Y+15 1+1 3+1 G+2 1J+W A 8+W V+L 16+K R+M 9+1Y V+F 9+1N 7 D+O 7+9 6+1G 1+9 4+3 "
    ++ "8+Z 2 9+1W 4+3 1+C 1 Z+H 1+10 6+3 1Q+6 1 1+3 1+E 1+9 7+1M 5+9 6+3 1+7 2+1 2+L 1+6 1+1 1+4 1+9 "
    ++ "2+1 2+2 2 6 5+6 2+6 3+4 B+9 1 2 1+11 1+9 1 2 1+3 1+7 D+1 T+22 5+9 4+3 U+1X 1 8+9 4M+1H 2+8 N+5 "
    ++ "Y+1S 3 B+9 12+1K 7+9 6+J S+Q 2+E 4+9 6+6 55+1M 2T+21 L+7 2 2+7 1+1 1+T 1+1 2+8 C+9 1Y+7 2+19 "
    ++ "2+7 1+1 R+1Q 8 8+21 3 I+20 5J+W F+9 6+8 1+18 1+8 F+9 O+T 2+L 1+D 21+6 1+1 1+17 3 1+1 1+8 8+9 "
    ++ "6+5 1+1 1+10 1+1 1+5 7+9 8M+M 9+G 1+14 3+4 D+A 2D 27+PL 2U+32 H+5F 218+2O F+TR G+L A+32Y 5+G6 "
    ++ "5A1+1L 1C6+FS 7+U 1+9 6+26 1+9 6+T 2+4 B+1I 9+3 C+9 9+K 5+I C0+18 3+9 5I+1R 3K+22 4+1K 7+G 1S+1 "
    ++ "1+1 B+1 E+4QF 8+YD 15+9 6W7+3 1+6 1+1 1+82 F T+2 2 E+3 8+AZ 1S4+2Y 5+C 3+8 7+9 3+1 381+9 EE+19 "
    ++ "2+M F2+4 3+5 8+7 2+6 U+3 44+2 CB+2C 1+1Y 1+1 2 2+1 2+3 1+B 1 1+6 1+1S 1+3 2+7 1+6 1+R 1+3 1+4 1 "
    ++ "3+6 1+9F 2+O 1+O 1+U 1+O 1+U 1+O 1+U 1+O 1+U 1+O 1+7 2+1D E8+1I 4+1D 8 E M+4 1+E UO+U 6+5 5X+6 "
    ++ "1+G 2+6 1+1 1+4 5+1P X 34+18 3+D 2+9 4 8X+U H+1L D2+15 5Y+16 DH+6 1+3 1+1 1+E 1+5G B+6 15+23 "
    ++ "4+9 X2+3 1+Q 1+1 1 2 1+9 1+3 1 1 6 4 1 1 1+2 1+1 1 2 1 1 1 1 1+1 1 2+3 1+6 1+3 1+3 1 1+9 1+G "
    ++ "5+2 1+4 1+G 2LW+9 SM+WYN W+37D 6+65 2+4G1 E+5RK F+H9 1WI+F1 15U+3T6 5+38F F9E8+6N"),
  ("ID_Start",
    "1T+P 6+P 1B A 4 5+M 1+U 1+CP 4+B E+4 7 1 3L+4 1+1 2+3 1 6 1+2 1 1+J 1+2A 1+3U 8+4L 1+11 2 6+14 "
    ++ "1Z+Q 4+3 19+16 Z+1 1+2Q 1 F+1 7+1 A+2 2 G 1+T T+2G B O+W 9+1 4 5+L 4 9 3 N+O 7+A 5+N 1+5 H+15 "
    ++ "1M+1H 3 I 7+9 F+F 4+7 2+1 2+L 1+6 1 3+3 3 G D+1 1+2 E+1 A 8+5 4+1 2+L 1+6 1+1 1+1 1+1 V+3 1 J+2 "
    ++ "G+8 1+2 1+L 1+6 1+1 1+4 3 I F+1 N B+7 2+1 2+L 1+6 1+1 1+4 3 U+1 1+2 F H 1+5 3+2 1+3 3+1 1 1+1 "
    ++ "3+1 3+2 3+B M 1G+7 1+2 1+M 1+F 3 Q+2 2 2+1 U 4+7 1+2 1+M 1+9 1+4 3 V+1 1+1 F+1 H+8 1+2 1+14 2 G "
    ++ "5+2 8+2 O+5 5+H 3+N 1+8 1 2+6 1M+1B 1+1 C+6 1M+1 1 1+4 1+N 1 1+9 1+1 9 2+4 1 L+3 W 1R+7 1+Z R+4 "
    ++ "37+16 K G+5 4+3 3 3+1 7+2 4+C C H+11 1 5 2+16 1+98 1+3 2+6 1 1+3 2+14 1+3 2+W 1+3 2+6 1 1+3 2+E "
    ++ "1+1K 1+3 2+1U 11+F G+2D 2+5 3+H7 2+G 1+P 5+22 3+A 7+H D+I E+H E+C 1+2 F+1F Z 4 1V+2G 7+14 1 "
    ++ "5+1X A+U 1D+T 2+4 B+17 4+P 1I+M 9+1G 2A 2L+1A H+7 1I+T D+1 A+17 Q+Z 15+2 A+Z 2+A 5+16 2+2 15+3 "
    ++ "1+5 1+1 3 5+5B 1S+7P 2+5 2+11 2+5 2+7 1 1 1 1+U 2+1G 1+6 1 3+2 1+6 3+3 2+5 4+C 5+2 1+6 38 D G+C "
    ++ "2T 4 2+9 1 2+5 6 1 1 1+F 2+3 5+4 4 H+14 22F+6C 6+3 3+1 C+11 1 5 2+1J 7 G+M 9+6 1+6 1+6 1+6 1+6 "
    ++ "1+6 1+6 1+6 FA+2 P+8 7+4 2+4 4+2D 4+4 1+2H 1+3 5+16 1+2L H+V 1C+F E8+533 1S+H3G 1V+19 2+7G 3+F "
    ++ "A+1 K+1A G+U 2+27 13+8 2+2U 2+1U 2+1 1 1+7 L+F 1+2 1+3 1+M T+1F E+1D 1Q+5 3 1+1 B+R A+M P+S "
    ++ "7+1A S G+4 1+9 A+4 1+14 N+2 1+7 K+M 3 3+1D 1 3+1 2+4 2 1 O+2 2+A 7+2 C+5 2+5 2+5 9+6 1+6 1+16 "
    ++ "1+D 6+36 T+8MB C+M 4+1C 6IS+A5 2+2X 12+6 C+4 5 1+9 1+C 1+4 1 1+1 1+1 1+2Z X+A2 I+1R 2+1H 14+B "
    ++ "38+4 1+3Q 10+P 6+P B+2G 3+5 2+5 2+5 2+2 Z+B 1+P 1+I 1+1 1+E 2+D Y+3E 1X+1G 7F+S 3+1C 1B+V D+T "
    ++ "5+11 A+T 2+Z 4+7 1+4 16+4D I+Z 4+Z 4+13 8+1F C+A 1+E 1+6 1+1 1+A 1+E 1+6 1+1 3+1F C+8M 9+L A+7 "
    ++ "O+5 1+15 1+8 1X+5 2 1+17 1+1 3 2+M A+M 9+U 1T+I 1+1 A+L A+P 1Y+1J 6+1 1S F+3 1+2 1+S 16+S 3+S "
    ++ "Z+7 1+R R+1H A+L A+I D+H 32+20 1J+1E D+1E D+Z 12+R 9+M 6Y+15 6+1 G+2 1N+S A 8+L 16+H 1A+K R+M "
    ++ "C+1G 1L+1 2 D+18 W+O Q+Z T 2 8+Y 3 C+1B E+3 L 1 Z+H 1+O J+1 1R+6 1 1+3 1+E 1+9 7+1A 12+7 2+1 "
    ++ "2+L 1+6 1+1 1+4 3 I C+4 U+9 1 2 1+11 1 P 1 18+1G I+3 K+2 U+1B K+1 1 54+1A 15+3 10+1B K 1N+16 D "
    ++ "1Z+Q 11+6 55+17 38+1R V+7 2 2+7 1+1 1+N F 1 2M+7 2+12 G 1 S A+13 7 L B+19 J I+20 5J+W V+8 1+10 "
    ++ "H 1D+T 34+6 1+1 1+11 L P+5 1+1 1+V E 93+I F 1+C 1+X 3G 27+PL 2U+32 H+5F 218+2O F+TR H+5 P+32Y "
    ++ "5+G6 5A1+T 1CY+FS 7+U H+26 H+T I+1B G+3 V+K 5+I C0+18 5V+1R 3K+22 5 1U+C 1S+1 1 S+4QF 8+YD 15+9 "
    ++ "6W7+3 1+6 1+1 1+82 F T+2 2 E+3 8+AZ 1S4+2Y 5+C 3+8 7+9 4ME+2C 1+1Y 1+1 2 2+1 2+3 1+B 1 1+6 1+1S "
    ++ "1+3 2+7 1+6 1+R 1+3 1+4 1 3+6 1+9F 2+O 1+O 1+U 1+O 1+U 1+O 1+U 1+O 1+U 1+O 1+7 1F8+U 6+5 79+1P "
    ++ "42+18 A+6 G 8X+T I+17 DG+R 6C+T 2 DR+6 1+3 1+1 1+E 1+5G 1N+1V 7 XG+3 1+Q 1+1 1 2 1+9 1+3 1 1 6 "
    ++ "4 1 1 1+2 1+1 1 2 1 1 1 1 1+1 1 2+3 1+6 1+3 1+3 1 1+9 1+G 5+2 1+4 1+G 3ES+WYN W+37D 6+65 2+4G1 "
    ++ "E+5RK F+H9 1WI+F1 15U+3T6 5+38F"),
  ("Ideographic",
    "9HI+1 P+8 E+2 QT+533 1S+G73 HKW+A5 2+2X N4A R+4QF 8+YD 15+9 76V+AZ F7O+WYN W+37D 6+65 2+4G1 "
    ++ "E+5RK F+H9 1WI+F1 15U+3T6 5+38F"),
  ("Join_Control",
    "6BW+1"),
  ("Logical_Order_Exception",
    "2TC+4 3F+4 25S+2 2 SMY+1 2 1+1"),
  ("Lowercase",
    "2P+P 1B A 4 10+N 1+7 1 1 1 1 1 1 1 1 1 1 1 1 1 1 1 1 1 1 1 1 1 1 1 1 1 1 1 1+1 1 1 1 1 1 1 1 "
    ++ "1+1 1 1 1 1 1 1 1 1 1 1 1 1 1 1 1 1 1 1 1 1 1 1 1 2 1 1+2 2 1 2 3+1 4 2 3+2 2 2 1 1 2 1+1 1 2 3 "
    ++ "1 2+1 2+2 6 2 2 1 1 1 1 1 1 1 1+1 1 1 1 1 1 1 1 1 1+1 2 1 3 1 1 1 1 1 1 1 1 1 1 1 1 1 1 1 1 1 1 "
    ++ "1 1 1 1 1 1 1 1 1 1 1+6 2 2+1 1 4 1 1 1 1+1W 2+Y 7+1 U+4 2O 17 1 3 2+3 I R+Y 1+1 3+2 1 1 1 1 1 "
    ++ "1 1 1 1 1 1 1+4 1 2 2+1 1F+1B 1 1 1 1 1 1 1 1 1 1 1 1 1 1 1 1 1 9 1 1 1 1 1 1 1 1 1 1 1 1 1 1 1 "
    ++ "1 1 1 1 1 1 1 1 1 1 1 2 1 1 1 1 1 1+1 1 1 1 1 1 1 1 1 1 1 1 1 1 1 1 1 1 1 1 1 1 1 1 1 1 1 1 1 1 "
    ++ "1 1 1 1 1 1 1 1 1 1 1 1 1 1 1 1 1 1 1 1C+14 287+16 1+3 L4+5 1OI+8 1 39+5B 1T 1 1 1 1 1 1 1 1 1 "
    ++ "1 1 1 1 1 1 1 1 1 1 1 1 1 1 1 1 1 1 1 1 1 1 1 1 1 1 1 1 1 1 1 1 1 1 1 1 1 1 1 1 1 1 1 1 1 1 1 1 "
    ++ "1 1 1 1 1 1 1 1 1 1 1 1 1 1 1 1 1+8 1 1 1 1 1 1 1 1 1 1 1 1 1 1 1 1 1 1 1 1 1 1 1 1 1 1 1 1 1 1 "
    ++ "1 1 1 1 1 1 1 1 1 1 1 1 1 1 1 1 1 1 1+8 8+5 A+7 8+7 8+5 A+7 8+7 8+D 2+7 8+7 8+7 8+4 1+1 6 3+2 "
    ++ "1+1 8+3 2+1 8+7 A+2 1+1 3D D G+C 31 3+1 3 R 4 4 2+1 8+3 4 X+F 4 NF+P 1FQ+1B 1 3+1 1 1 1 4 1+1 "
    ++ "1+7 3 1 1 1 1 1 1 1 1 1 1 1 1 1 1 1 1 1 1 1 1 1 1 1 1 1 1 1 1 1 1 1 1 1 1 1 1 1 1 1 1 1 1 1 1 1 "
    ++ "1 1 1 1+1 7 1 4 C+11 1 5 NWZ 1 1 1 1 1 1 1 1 1 1 1 1 1 1 1 1 1 1 1 1 1 1 J 1 1 1 1 1 1 1 1 1 1 "
    ++ "1 1 1+2 3P 1 1 1 1 1 1+2 1 1 1 1 1 1 1 1 1 1 1 1 1 1 1 1 1 1 1 1 1 1 1 1 1 1 1 1 1 1 1+9 1 1 2 "
    ++ "1 1 1 1 4 1 2 1+2 1 1 1 1 1 1 1 1 1 1 5 5 1 1 1 1 1 1 1 4 1 2 3 1 1 1 1 1 M+2 1 1+2 MT+16 1+D "
    ++ "6+27 FNK+6 C+4 TL+P Y5+13 3S+Z 4B+A 1+E 1+6 1+1 CJ 2+2 1+15 1+8 ZP+1E 3H+L 27U+V GW0+V K2I+P "
    ++ "Q+6 1+H Q+P Q+3 1 1+6 1+A Q+P Q+P Q+P Q+P Q+P Q+P Q+P Q+P Q+R S+O 1+5 Q+O 1+5 Q+O 1+5 Q+O 1+5 "
    ++ "Q+O 1+5 1 1F8+9 1+J 6+5 79+1P 1PW+X"),
  ("Math",
    "17 G+2 V T 1 19 4 11 V K8+2 2 Q+1 2+2 EN+2 559 R+2 B 3 D E+3 L+4 B+4 1T+C 4 3+1 4+4 I 4 2+9 1 "
    ++ "2+5 6 3+1 2+1 1+2 1+5 3+D 1 1W+N 1+5 1+1 4+1 4+V 1 6+1 E+7F 8+3 K+1 2I U+Q 1 O B+6 CD+1 C+9 4+5 "
    ++ "4+1 2+1 3+4 E 1 2+5 B+7 5+1 1L 1 T+3 9+2 9C+1R 74+E7 1C+K 2+5 1524 MV+5 1 4I G+2 T 1 T 1 3N 6+3 "
    ++ "2OX+1 1374+2C 1+1Y 1+1 2 2+1 2+3 1+B 1 1+6 1+1S 1+3 2+7 1+6 1+R 1+3 1+4 1 3+6 1+9F 2+83 2+1D "
    ++ "4CG+3 1+Q 1+1 1 2 1+9 1+3 1 1 6 4 1 1 1+2 1+1 1 2 1 1 1 1 1+1 1 2+3 1+6 1+3 1+3 1 1+9 1+G 5+2 "
    ++ "1+4 1+G 1G+1"),
  ("Modifier_Combining_Mark",
    "190+1 2 3N 6 3+1 DD+1 1+2 3 V"),
  ("Noncharacter_Code_Point",
    "1E4W+V EM+1 1EKE+1 1EKE+1 1EKE+1 1EKE+1 1EKE+1 1EKE+1 1EKE+1 1EKE+1 1EKE+1 1EKE+1 1EKE+1 1EKE+1 "
    ++ "1EKE+1 1EKE+1 1EKE+1 1EKE+1"),
  ("Other_Alphabetic",
    "N9 T+C G0+D 1 1+1 1+1 1 20+A 1C+C 1+6 G 2T+6 4+3 2+1 4 Z U+F 2U+A 2T+1 3+8 1+2 1+3 2Y 1O+B 3+6 "
    ++ "6+J 1I+1 2+E 1+1 5+2 A+1 T+2 1M+6 2+1 2+1 A A+1 T+2 1M+4 4+1 2+1 4 U+1 3 B+2 1M+7 1+2 1+1 L+1 "
    ++ "M+2 4+2 1M+6 2+1 2+1 9+1 A+1 U 1N+4 3+2 1+2 A 14+4 1L+6 1+2 1+2 8+1 B+1 T+2 1M+6 1+2 1+2 8+1 "
    ++ "B+1 F C+3 1M+6 1+2 1+2 A A+1 T+2 23+5 1 1+7 I+1 1P 2+6 I 2R 2+5 1+1 G 4J+I 9+A 1+Z 32+B 1 2+3 "
    ++ "N+3 4+2 1+2 2+6 3+3 D+B 1 A+3 19W+1 U+1 U+1 U+1 1U+I 58+1 Y 3A+B 4+8 66+4 1L+9 2+J 22+1 B+2 "
    ++ "1D+4 1C+E 1O+2 U+8 2+1 1L+A 1E+I BG+X 1C1+1F 1RQ+V NSK+7 Y+1 9U 8 N+4 2G+1 1E+F 1 1L 12+4 S+B "
    ++ "19+3 1C+B 11 1V+D C 8+1 19+2 1E 1+2 2+1 5 18+4 5 6L+7 FN7 1NB+4 1AE+2 1+1 5+3 LW+3 1T 8X+1 27 "
    ++ "77+2 1H+D 19+1 B+2 19+8 9 1P+2 10+B I+1 1L+2 1C+C E+1 2K+8 2 6 2 4D+9 N+3 1M+6 2+1 2+1 A A+1 "
    ++ "2C+8 1 2 1+3 1+1 2V+C 1+2 2Y+H 6L+6 2+6 T+1 2A+E 1 2Y+A 2V+D 75+C 6V+5 1+1 2+1 3 1 3Y+6 2+5 4 "
    ++ "S+9 16+4 1+3 I+A 1A+D BB+7 1+6 2B+L 1+D 3E+5 3 1+1 1+2 1 3 1U+4 1+1 1+3 9O+3 9+1 1 1C+6 3+2 "
    ++ "D0D+G 2SG 1+1I 7+3 2L+1 F58 6ZL+6 1+G 2+6 1+1 1+4 2S 1PZ 1K8+P 6+P 6+P"),
  ("Other_Default_Ignorable_Code_Point",
    "NJ 2RZ+1 18Z+1 1PR 3CU 14QJ 27+8 I9DZ 1+T 2O+3J 6O+2RZ"),
  ("Other_Grapheme_Extend",
    "1XA O 9Y O 2U O 6G 1 4+1 1+1 9+1 2V O 3B F 1TH U SG 5 1 5+1 2T 1Z+1 T4 36P+1 NXF 30 GYL+1 3KW "
    ++ "38 7C E 9 2O 9 2 1+2 5 68 C 6P 7A HL C 16R FXQ+1 J8Z+1 6+5 H419+2N"),
  ("Other_ID_Continue",
    "53 JZ 34X+8 19K 181+1 3CD 14RT"),
  ("Other_ID_Start",
    "4UD+1 1OX L 31O+1"),
  ("Other_Lowercase",
    "4Q F DX+8 7+1 U+4 2O 1G 2O1 2EN+1Q D Y+10 J5 D G+C 5V+F NK+P 1HU+1 O4E+1 5U 3L+2 3+1 O2+3 9 I6U "
    ++ "2+2 1+15 1+8 16R9+1P"),
  ("Other_Math",
    "2M OH+2 2 Q+1 2+1 5K0 R+2 B W+3 O+1 E+1 1T+C 4 3+1 4+4 I 4 2+9 1 3+4 6 3+1 2+1 1+2 1+5 3+3 5+4 "
    ++ "23+4 2+3 1+1 1+1 1 1+4 2+1 4+1 4+H 2+1 1 1+6 1 6+1 82+3 4O+1 1 O H CD+1 C+8 5+4 5+1 2+1 3+4 E 1 "
    ++ "2+5 O+1 1L 1 T+3 9+1 9I+1 V+9 B7+L 1R+3 W+1 15YB 1 4 5V 1 160X+2C 1+1Y 1+1 2 2+1 2+3 1+B 1 1+6 "
    ++ "1+1S 1+3 2+7 1+6 1+R 1+3 1+4 1 3+6 1+9F 2+O 1+O 1+U 1+O 1+U 1+O 1+U 1+O 1+U 1+O 1+7 2+1D 4CG+3 "
    ++ "1+Q 1+1 1 2 1+9 1+3 1 1 6 4 1 1 1+2 1+1 1 2 1 1 1 1 1+1 1 2+3 1+6 1+3 1+3 1 1+9 1+G 5+2 1+4 1+G"),
  ("Other_Uppercase",
    "6LC+F NA+P 2IXS+P 6+P 6+P"),
  ("Pattern_Syntax",
    "X+E A+6 Q+3 1 Q+3 Y+6 1 1+1 1 1+1 4 4 3 N V 654+N 8+E 2+I 1+9 8H+JZ 4G+HH U+SH 1+2W E8+3J AP+2 "
    ++ "4+O F 14I5+1 79+1"),
  ("Pattern_White_Space",
    "9+4 I 2S 688+1 O+1"),
  ("Prepended_Concatenation_Mark",
    "16O+5 5Z 1D AO+1 28 1G4A F"),
  ("Quotation_Mark",
    "Y 4 3N F 670+7 P+1 2RR CP+3 D+2 14PT+3 59 4 2I+1"),
  ("Radical",
    "96O+P 1+2G C+5X"),
  ("Regional_Indicator",
    "2QCM+P"),
  ("Sentence_Terminal",
    "X C G 11L 43+2 50 17+2 6U 1P 1 3+1 85+1 1D0+1 LY 4+1 LH 5I+1 4D+1 19 5 8Q+1 9U+3 4I+1 A+1 2+1 "
    ++ "T+2 57+1 1T+1 PW N+1 9+2 2I7+2 8I D M+1 BX N3W 7I+1 6B 3 AM+1 2E+1 2N 48+1 43+2 40+1 6X G86 2+1 "
    ++ "1N 3+1 4P C G 1T 25W+1 ZH+4 18+3 59+1 39+3 3J+2 3L+1 6 G+1 2G+1 1+1 30 8A+1 39+1 AD+1 5+E 2X+1 "
    ++ "6X+2 ED 1 6Z+1 2F+1 BO+1 J8+1 22+1 EUH+1 3P 1T+1 B FD+1 88 FEU 5WO"),
  ("Soft_Dotted",
    "2X+1 5G 7T U 1G K 8W 2Q 1 4Y1 1F D 3 3O 4D BP 5Y+1 27M 2BOL+1 1E+1 1E+1 1E+1 1E+1 1E+1 1E+1 "
    ++ "1E+1 1E+1 1E+1 1E+1 1E+1 1E+1 1OM 8H+1 Q"),
  ("Terminal_Punctuation",
    "X A 1 B+1 3 N2 8 E9 1L 20 E 1+2 50 17+A 1 6J+1 1I+5 1+7 V 79+1 Z8+1 4S 4+5 8N+1 LX+7 LH 3G+2 "
    ++ "1Z+1 4D+2 3 13+3 2+1 8Q+1 9U+3 4I+1 A+1 1+2 T+2 57+4 1Q+1 PW N+1 9+2 2I7+2 8I D 4 A 1+1 3+1 "
    ++ "BW+1 N3V+1 7H+2 6B+4 AM+1 2E+1 2N 47+2 43+2 3J G+1 6X G86 2+1 1L+2 1+3 4P A 1 B+1 3 1T 2 U2 1C "
    ++ "W6 5J 8M+1 48+5 1W+5 2H+3 QG+4 18+3 59+6 34+3 3J+2 3L+1 6 G+1 2G+4 30 8A+1 39+2 C+1 9Y+3 3+E "
    ++ "2X+1 6X+2 ED 1 6Z+1 2F+1 4+1 BI+2 19 HX+1 22+1 10R+4 DTL+1 3P 1T+2 A FD+1 87+1 FEU 5WN+3"),
  ("Unified_Ideograph",
    "A9S+533 1S+G73 HSE+1 1 1+1 A 1 1+1 2+2 1FPY+WYN W+37D 6+65 2+4G1 E+5RK F+H9 3HE+3T6 5+38F"),
  ("Uppercase",
    "1T+P 2T+M 1+6 X 1 1 1 1 1 1 1 1 1 1 1 1 1 1 1 1 1 1 1 1 1 1 1 1 1 1 1 2 1 1 1 1 1 1 1 2 1 1 1 1 "
    ++ "1 1 1 1 1 1 1 1 1 1 1 1 1 1 1 1 1 1 1+1 1 1 3+1 1 1+1 1+2 2+3 1+1 1+2 3+1 1+1 1 1 1+1 1 2 1+1 "
    ++ "1+2 1 1+1 3 7 2 2 2 1 1 1 1 1 1 1 2 1 1 1 1 1 1 1 1 2 2 1+2 1 1 1 1 1 1 1 1 1 1 1 1 1 1 1 1 1 1 "
    ++ "1 1 1 1 1 1 1 1 1 1 1 7+1 1+1 2 1+3 1 1 1 1 81 1 3 8 6 1+2 1 1+1 1+G 1+8 Z 2+2 3 1 1 1 1 1 1 1 "
    ++ "1 1 1 1 5 2 1+1 2+1E 1C 1 1 1 1 1 1 1 1 1 1 1 1 1 1 1 1 9 1 1 1 1 1 1 1 1 1 1 1 1 1 1 1 1 1 1 1 "
    ++ "1 1 1 1 1 1 1 1+1 1 1 1 1 1 1 2 1 1 1 1 1 1 1 1 1 1 1 1 1 1 1 1 1 1 1 1 1 1 1 1 1 1 1 1 1 1 1 1 "
    ++ "1 1 1 1 1 1 1 1 1 1 1 1 1 1 1 2+11 289+11 1 5 K2+2D 1OZ 6+16 2+2 8W 1 1 1 1 1 1 1 1 1 1 1 1 1 1 "
    ++ "1 1 1 1 1 1 1 1 1 1 1 1 1 1 1 1 1 1 1 1 1 1 1 1 1 1 1 1 1 1 1 1 1 1 1 1 1 1 1 1 1 1 1 1 1 1 1 1 "
    ++ "1 1 1 1 1 1 1 1 1 1 1 1 9 1 1 1 1 1 1 1 1 1 1 1 1 1 1 1 1 1 1 1 1 1 1 1 1 1 1 1 1 1 1 1 1 1 1 1 "
    ++ "1 1 1 1 1 1 1 1 1 1 1 1 1 9+7 8+5 A+7 8+7 8+5 B 1 1 1 8+7 20+3 C+3 C+3 C+4 B+3 7A 4 3+2 2+2 2 "
    ++ "3+4 6 1 1 1+3 2+3 A+1 5 Q+F J MQ+P 1F4+1B 1C 1+2 2 1 1 1+3 1 2 8+2 1 1 1 1 1 1 1 1 1 1 1 1 1 1 "
    ++ "1 1 1 1 1 1 1 1 1 1 1 1 1 1 1 1 1 1 1 1 1 1 1 1 1 1 1 1 1 1 1 1 1 1 1 8 1 4 NYL 1 1 1 1 1 1 1 1 "
    ++ "1 1 1 1 1 1 1 1 1 1 1 1 1 1 J 1 1 1 1 1 1 1 1 1 1 1 1 1 3R 1 1 1 1 1 1 3 1 1 1 1 1 1 1 1 1 1 1 "
    ++ "1 1 1 1 1 1 1 1 1 1 1 1 1 1 1 1 1 1 1 A 1 1+1 1 1 1 1 4 1 2 1 3 1 1 1 1 1 1 1 1 1 1+4 1+4 1 1 1 "
    ++ "1 1 1 1 1+3 1 1+1 3 5 1 1 1 O H7V+P XX+13 3S+Z 4C+A 1+E 1+6 1+1 1D6+1E 4D+L 27U+V GW0+V K2O+P "
    ++ "Q+P Q+P Q 1+1 2 2+1 2+3 1+7 Q+P Q+1 1+3 2+7 1+6 R+1 1+3 1+4 1 3+6 R+P Q+P Q+P Q+P Q+P Q+P U+O "
    ++ "X+O X+O X+O X+O X 3ED+X 1LA+P 6+P 6+P"),
  ("Variation_Selector",
    "4QZ+2 1 19F4+F I9YO+6N"),
  ("White_Space",
    "9+4 I 2S Q 4BJ 1VJ+A T+1 5 1B 334"),
  ("XID_Continue",
    "1C+9 7+P 4 1+P 1B A 1 2 5+M 1+U 1+CP 4+B E+4 7 1 H+38 1+1 3+2 1 6+4 1 1+J 1+2A 1+3U 1+4 2+4L "
    ++ "1+11 2 6+14 8+18 1 1+1 1+1 1 8+Q 4+3 T+A 5+21 4+2T 1+7 2+9 1+I 2 G+1M 2+2S E+1H 4 2 2+19 I+R "
    ++ "4+A 5+N 1+5 8+22 1+3K 2+9 1+I 1+7 2+1 2+L 1+6 1 3+3 2+8 2+1 2+3 8 4+1 1+4 2+B A 1 2+2 1+5 4+1 "
    ++ "2+L 1+6 1+1 1+1 1+1 2 1+4 4+1 2+2 3 7+3 1 7+F B+2 1+8 1+2 1+L 1+6 1+1 1+4 2+9 1+2 1+2 2 F+3 2+9 "
    ++ "9+6 1+2 1+7 2+1 2+L 1+6 1+1 1+4 2+8 2+1 2+2 7+2 4+1 1+4 2+9 1 G+1 1+5 3+2 1+3 3+1 1 1+1 3+1 3+2 "
    ++ "3+B 4+4 3+2 1+3 2 6 E+9 G+C 1+2 1+M 1+F 2+8 1+2 1+3 7+1 1+2 2 2+3 2+9 G+3 1+7 1+2 1+M 1+9 1+4 "
    ++ "2+8 1+2 1+3 7+1 6+1 1+3 2+9 1+2 C+C 1+2 1+1E 1+2 1+4 5+3 7+4 2+9 A+5 1+2 1+H 3+N 1+8 1 2+6 3 "
    ++ "4+5 1 1+7 6+9 2+1 D+1L 5+E 1+9 13+1 1 1+4 1+N 1 1+M 2+4 1 1+6 1+9 2+3 W N+1 6+9 B 1 1 4+9 1+Z "
    ++ "4+J 1+H 1+Z 9 1L+21 6+25 2+11 1 5 2+16 1+98 1+3 2+6 1 1+3 2+14 1+3 2+W 1+3 2+6 1 1+3 2+E 1+1K "
    ++ "1+3 2+1U 2+2 9+8 E+F G+2D 2+5 3+H7 2+G 1+P 5+22 3+A 7+L 9+L B+J C+C 1+2 1+1 C+2B 3 4+1 2+9 X+2 "
    ++ "1+A 6+2G 7+16 5+1X A+U 1+B 4+B A+13 2+4 B+17 4+P 6+A 11+R 4+1Q 1+S 2+A 6+9 D 8+D 1+F 1D+24 3+9 "
    ++ "H+8 C+37 C+1J 8+9 3+1C 2+A 5+16 2+2 G+2 1+12 5+ET 2+5 2+11 2+5 2+7 1 1 1 1+U 2+1G 1+6 1 3+2 1+6 "
    ++ "3+3 2+5 4+C 5+2 1+6 F+1 1D+1 J S D G+C 1F+C 4 3+B H 4 2+9 1 2+5 6 1 1 1+F 2+3 5+4 4 H+14 22F+6C "
    ++ "6+8 C+11 1 5 2+1J 7 F+N 9+6 1+6 1+6 1+6 1+6 1+6 1+6 1+6 1+V ED+2 P+E 1+4 2+4 4+2D 2+1 2+2 1+2M "
    ++ "5+16 1+2L H+V 1C+F E8+533 1S+H3G 1V+19 2+7G 3+R K+1B 4+9 1+36 11+8 2+2U 2+1U 2+1 1 1+7 L+1H 4 "
    ++ "J+1F C+1X A+9 6+N 3 1+1C 2+Z C+S 3+1S E+A 6+U 1+1I 9+D 2+9 6+M 3+20 O+2 2+F 2+4 A+5 2+5 2+5 9+6 "
    ++ "1+6 1+16 1+D 6+3E 1+1 2+9 6+8MB C+M 4+1C 6IS+A5 2+2X 12+6 C+4 5+B 1+C 1+4 1 1+1 1+1 1+2Z X+3U "
    ++ "6+61 I+1R 2+1H 14+9 6+F G+F 3+1 O+2 X 1 3 1 1 1 1+3H J+9 7+P 4 1+P A+2H 3+5 2+5 2+5 2+2 Z+B 1+P "
    ++ "1+I 1+1 1+E 2+D Y+3E 1X+1G 3S 3M+S 3+1C F V+V D+T 5+16 5+T 2+Z 4+7 1+4 16+4D 2+9 6+Z 4+Z 4+13 "
    ++ "8+1F C+A 1+E 1+6 1+1 1+A 1+E 1+6 1+1 3+1F C+8M 9+L A+7 O+5 1+15 1+8 1X+5 2 1+17 1+1 3 2+M A+M "
    ++ "9+U 1T+I 1+1 A+L A+P 1Y+1J 6+1 1S+3 1+1 5+7 1+2 1+S 2+2 4 W+S 3+S Z+7 1+T P+1H A+L A+I D+H "
    ++ "32+20 1J+1E D+1E D+13 8+9 6+11 3+4 1+M 6Y+15 1+1 3+1 G+2 1J+W A 8+W V+L 16+K R+M 9+1Y V+F 9+1N "
    ++ "7 D+O 7+9 6+1G 1+9 4+3 8+Z 2 9+1W 4+3 1+C 1 Z+H 1+10 6+3 1Q+6 1 1+3 1+E 1+9 7+1M 5+9 6+3 1+7 "
    ++ "2+1 2+L 1+6 1+1 1+4 1+9 2+1 2+2 2 6 5+6 2+6 3+4 B+9 1 2 1+11 1+9 1 2 1+3 1+7 D+1 T+22 5+9 4+3 "
    ++ "U+1X 1 8+9 4M+1H 2+8 N+5 Y+1S 3 B+9 12+1K 7+9 6+J S+Q 2+E 4+9 6+6 55+1M 2T+21 L+7 2 2+7 1+1 1+T "
    ++ "1+1 2+8 C+9 1Y+7 2+19 2+7 1+1 R+1Q 8 8+21 3 I+20 5J+W F+9 6+8 1+18 1+8 F+9 O+T 2+L 1+D 21+6 1+1 "
    ++ "1+17 3 1+1 1+8 8+9 6+5 1+1 1+10 1+1 1+5 7+9 8M+M 9+G 1+14 3+4 D+A 2D 27+PL 2U+32 H+5F 218+2O "
    ++ "F+TR G+L A+32Y 5+G6 5A1+1L 1C6+FS 7+U 1+9 6+26 1+9 6+T 2+4 B+1I 9+3 C+9 9+K 5+I C0+18 3+9 5I+1R "
    ++ "3K+22 4+1K 7+G 1S+1 1+1 B+1 E+4QF 8+YD 15+9 6W7+3 1+6 1+1 1+82 F T+2 2 E+3 8+AZ 1S4+2Y 5+C 3+8 "
    ++ "7+9 3+1 381+9 EE+19 2+M F2+4 3+5 8+7 2+6 U+3 44+2 CB+2C 1+1Y 1+1 2 2+1 2+3 1+B 1 1+6 1+1S 1+3 "
    ++ "2+7 1+6 1+R 1+3 1+4 1 3+6 1+9F 2+O 1+O 1+U 1+O 1+U 1+O 1+U 1+O 1+U 1+O 1+7 2+1D E8+1I 4+1D 8 E "
    ++ "M+4 1+E UO+U 6+5 5X+6 1+G 2+6 1+1 1+4 5+1P X 34+18 3+D 2+9 4 8X+U H+1L D2+15 5Y+16 DH+6 1+3 1+1 "
    ++ "1+E 1+5G B+6 15+23 4+9 X2+3 1+Q 1+1 1 2 1+9 1+3 1 1 6 4 1 1 1+2 1+1 1 2 1 1 1 1 1+1 1 2+3 1+6 "
    ++ "1+3 1+3 1 1+9 1+G 5+2 1+4 1+G 2LW+9 SM+WYN W+37D 6+65 2+4G1 E+5RK F+H9 1WI+F1 15U+3T6 5+38F "
    ++ "F9E8+6N"),
  ("XID_Start",
    "1T+P 6+P 1B A 4 5+M 1+U 1+CP 4+B E+4 7 1 3L+4 1+1 3+2 1 6 1+2 1 1+J 1+2A 1+3U 8+4L 1+11 2 6+14 "
    ++ "1Z+Q 4+3 19+16 Z+1 1+2Q 1 F+1 7+1 A+2 2 G 1+T T+2G B O+W 9+1 4 5+L 4 9 3 N+O 7+A 5+N 1+5 H+15 "
    ++ "1M+1H 3 I 7+9 F+F 4+7 2+1 2+L 1+6 1 3+3 3 G D+1 1+2 E+1 A 8+5 4+1 2+L 1+6 1+1 1+1 1+1 V+3 1 J+2 "
    ++ "G+8 1+2 1+L 1+6 1+1 1+4 3 I F+1 N B+7 2+1 2+L 1+6 1+1 1+4 3 U+1 1+2 F H 1+5 3+2 1+3 3+1 1 1+1 "
    ++ "3+1 3+2 3+B M 1G+7 1+2 1+M 1+F 3 Q+2 2 2+1 U 4+7 1+2 1+M 1+9 1+4 3 V+1 1+1 F+1 H+8 1+2 1+14 2 G "
    ++ "5+2 8+2 O+5 5+H 3+N 1+8 1 2+6 1M+1B 1 D+6 1M+1 1 1+4 1+N 1 1+9 1 A 2+4 1 L+3 W 1R+7 1+Z R+4 "
    ++ "37+16 K G+5 4+3 3 3+1 7+2 4+C C H+11 1 5 2+16 1+98 1+3 2+6 1 1+3 2+14 1+3 2+W 1+3 2+6 1 1+3 2+E "
    ++ "1+1K 1+3 2+1U 11+F G+2D 2+5 3+H7 2+G 1+P 5+22 3+A 7+H D+I E+H E+C 1+2 F+1F Z 4 1V+2G 7+14 1 "
    ++ "5+1X A+U 1D+T 2+4 B+17 4+P 1I+M 9+1G 2A 2L+1A H+7 1I+T D+1 A+17 Q+Z 15+2 A+Z 2+A 5+16 2+2 15+3 "
    ++ "1+5 1+1 3 5+5B 1S+7P 2+5 2+11 2+5 2+7 1 1 1 1+U 2+1G 1+6 1 3+2 1+6 3+3 2+5 4+C 5+2 1+6 38 D G+C "
    ++ "2T 4 2+9 1 2+5 6 1 1 1+F 2+3 5+4 4 H+14 22F+6C 6+3 3+1 C+11 1 5 2+1J 7 G+M 9+6 1+6 1+6 1+6 1+6 "
    ++ "1+6 1+6 1+6 FA+2 P+8 7+4 2+4 4+2D 6+2 1+2H 1+3 5+16 1+2L H+V 1C+F E8+533 1S+H3G 1V+19 2+7G 3+F "
    ++ "A+1 K+1A G+U 2+27 13+8 2+2U 2+1U 2+1 1 1+7 L+F 1+2 1+3 1+M T+1F E+1D 1Q+5 3 1+1 B+R A+M P+S "
    ++ "7+1A S G+4 1+9 A+4 1+14 N+2 1+7 K+M 3 3+1D 1 3+1 2+4 2 1 O+2 2+A 7+2 C+5 2+5 2+5 9+6 1+6 1+16 "
    ++ "1+D 6+36 T+8MB C+M 4+1C 6IS+A5 2+2X 12+6 C+4 5 1+9 1+C 1+4 1 1+1 1+1 1+2Z X+3U 6+61 I+1R 2+1H "
    ++ "14+9 3B 1 3 1 1 1 1+3H 10+P 6+P B+1J 2+U 3+5 2+5 2+5 2+2 Z+B 1+P 1+I 1+1 1+E 2+D Y+3E 1X+1G "
    ++ "7F+S 3+1C 1B+V D+T 5+11 A+T 2+Z 4+7 1+4 16+4D I+Z 4+Z 4+13 8+1F C+A 1+E 1+6 1+1 1+A 1+E 1+6 1+1 "
    ++ "3+1F C+8M 9+L A+7 O+5 1+15 1+8 1X+5 2 1+17 1+1 3 2+M A+M 9+U 1T+I 1+1 A+L A+P 1Y+1J 6+1 1S F+3 "
    ++ "1+2 1+S 16+S 3+S Z+7 1+R R+1H A+L A+I D+H 32+20 1J+1E D+1E D+Z 12+R 9+M 6Y+15 6+1 G+2 1N+S A "
    ++ "8+L 16+H 1A+K R+M C+1G 1L+1 2 D+18 W+O Q+Z T 2 8+Y 3 C+1B E+3 L 1 Z+H 1+O J+1 1R+6 1 1+3 1+E "
    ++ "1+9 7+1A 12+7 2+1 2+L 1+6 1+1 1+4 3 I C+4 U+9 1 2 1+11 1 P 1 18+1G I+3 K+2 U+1B K+1 1 54+1A "
    ++ "15+3 10+1B K 1N+16 D 1Z+Q 11+6 55+17 38+1R V+7 2 2+7 1+1 1+N F 1 2M+7 2+12 G 1 S A+13 7 L B+19 "
    ++ "J I+20 5J+W V+8 1+10 H 1D+T 34+6 1+1 1+11 L P+5 1+1 1+V E 93+I F 1+C 1+X 3G 27+PL 2U+32 H+5F "
    ++ "218+2O F+TR H+5 P+32Y 5+G6 5A1+T 1CY+FS 7+U H+26 H+T I+1B G+3 V+K 5+I C0+18 5V+1R 3K+22 5 1U+C "
    ++ "1S+1 1 S+4QF 8+YD 15+9 6W7+3 1+6 1+1 1+82 F T+2 2 E+3 8+AZ 1S4+2Y 5+C 3+8 7+9 4ME+2C 1+1Y 1+1 2 "
    ++ "2+1 2+3 1+B 1 1+6 1+1S 1+3 2+7 1+6 1+R 1+3 1+4 1 3+6 1+9F 2+O 1+O 1+U 1+O 1+U 1+O 1+U 1+O 1+U "
    ++ "1+O 1+7 1F8+U 6+5 79+1P 42+18 A+6 G 8X+T I+17 DG+R 6C+T 2 DR+6 1+3 1+1 1+E 1+5G 1N+1V 7 XG+3 "
    ++ "1+Q 1+1 1 2 1+9 1+3 1 1 6 4 1 1 1+2 1+1 1 2 1 1 1 1 1+1 1 2+3 1+6 1+3 1+3 1 1+9 1+G 5+2 1+4 1+G "
    ++ "3ES+WYN W+37D 6+65 2+4G1 E+5RK F+H9 1WI+F1 15U+3T6 5+38F")]

def propertyRanges? (name : String) : Option Ranges :=
  (binaryProperties.lookup name).map decodeRanges

def propertyRanges (name : String) : Ranges := (propertyRanges? name).getD #[]

end Unicode

end MonitorWire
