import MonitorWire.Unicode.Additions

namespace MonitorWire

namespace Unicode

inductive IdnaStatus where
  | valid
  | ignored
  | mapped (text : List Char)
  | deviation
  | disallowed
  deriving DecidableEq, Repr, Inhabited

def idnaDisallowedText : String :=
  "3K+V 128+5 M 5C 1D AO+1 28 2OT 1VX+1 K+2 1+6 1J+3 TA+J 28K+F DR CY 4 G WFB+6IN 102 6 M X BQ+4 "
  ++ "3B3 F 6ZM+F 11A8 GXS0 U+2N 1EGW+1EKD 2+1EKD"

def idnaIgnoredText : String :=
  "4T IP 2RZ+1 18Z+1 2D+4 1KR 2C+4 5+5 3CK 14EZ+F 6N 4G 11BZ+3 43Z+7 H479+6N"

def idnaDeviationText : String :=
  "67 KI 5L5+1"

def idnaMappingText : String :=
  "1T+P:^W 1X:_3K 7:W,LK 1:_21 4:W,LG 2+1:_3K 0:W,LD 0:^LJ 2:W,MF 0:_3S 0:_23 1:1D,6DG,1G "
  ++ "0:1D,6DG,1E 0:1F,6DG,1G 1+M:^W 1+6:^W X:^1 1:^1 1:^1 1:^1 1:^1 1:^1 1:^1 1:^1 1:^1 1:^1 1:^1 "
  ++ "1:^1 1:^1 1:^1 1:^1 1:^1 1:^1 1:^1 1:^1 1:^1 1:^1 1:^1 1:^1 1:^1 1:2X,LJ 1+1:2X,2Y 0:^1 1:^1 "
  ++ "2:^1 1:^1 1:^1 1+1:30,53 0:^1 1:^1 1:^1 1:^1 1:JG,32 0:^1 1:^1 1:^1 1:^1 1:^1 1:^1 1:^1 1:^1 "
  ++ "1:^1 1:^1 1:^1 1:^1 1:^1 1:^1 1:^1 1:^1 1:^1 1:^1 1:^1 1:^1 1:^1 1:^1 1:^1 1:_3D 0:^1 1:^1 1:^1 "
  ++ "1:_7G 1:^5U 0:^1 1:^1 1:^5Q 0:^1 1+1:^5P 0:^1 2:^27 0:^5M 0:^5N 0:^1 1:^5P 0:^5R 1:^5V 0:^5T "
  ++ "0:^1 3:^5V 0:^5X 1:^5Y 0:^1 1:^1 1:^1 1:^62 0:^1 1:^62 2:^1 1:^62 0:^1 1+1:^61 0:^1 1:^1 1:^63 "
  ++ "0:^1 3:^1 7+2:2S,AM 0+2:30,2Y 0+2:32,2Y 0:^1 1:^1 1:^1 1:^1 1:^1 1:^1 1:^1 1:^1 2:^1 1:^1 1:^1 "
  ++ "1:^1 1:^1 1:^1 1:^1 1:^1 1:^1 2+2:2S,3E 0:^1 1:_2P 0:_1K 0:^1 1:^1 1:^1 1:^1 1:^1 1:^1 1:^1 "
  ++ "1:^1 1:^1 1:^1 1:^1 1:^1 1:^1 1:^1 1:^1 1:^1 1:^1 1:^1 1:^1 1:^1 1:_3M 1:^1 1:^1 1:^1 1:^1 1:^1 "
  ++ "1:^1 1:^1 1:^1 1:^1 7:^8BV 0:^1 1:_4J 0:^8BS 2:^1 1:_5F 0:^1X 0:^1Z 0:^1 1:^1 1:^1 1:^1 1:^1 "
  ++ "2P:_G8 0:_23 0:_G8 0:_G1 0:_1N 0:_1M 0:_1H 0:_G0 0:_FZ V:W,LI 0:W,LJ 0:W,LM 0:W,MG 0:W,LF "
  ++ "0:W,LN 2:_3H 0:_HH 0:_HB 0:_H7 0:_27 2J+1:_1S 1:_1C 0:LK,LD 0:^38 16:^1 1:^1 1:_57 1:^1 3:W,QH "
  ++ "3:_N7 0:^38 4:W,LD 0:W,LK,LD 0:^12 0:_K0 0+2:^11 1:^1S 1+1:^1R 1+G:^W 1+8:^W Z:^8 0:_U 0:_P "
  ++ "0:_D 0:_6 0:_9 0:_F 0:_M 1:^1 1:^1 1:^1 1:^1 1:^1 1:^1 1:^1 1:^1 1:^1 1:^1 1:^1 1:^1 1:_1I "
  ++ "0:_1C 0:_1B 1:_1O 0:_1S 1:^1 1:_1I 0:^1 2+2:_3M 0+F:^28 0+V:^W 1C:^1 1:^1 1:^1 1:^1 1:^1 1:^1 "
  ++ "1:^1 1:^1 1:^1 1:^1 1:^1 1:^1 1:^1 1:^1 1:^1 1:^1 1:^1 9:^1 1:^1 1:^1 1:^1 1:^1 1:^1 1:^1 1:^1 "
  ++ "1:^1 1:^1 1:^1 1:^1 1:^1 1:^1 1:^1 1:^1 1:^1 1:^1 1:^1 1:^1 1:^1 1:^1 1:^1 1:^1 1:^1 1:^1 1:^1 "
  ++ "1:^F 0:^1 1:^1 1:^1 1:^1 1:^1 1:^1 1:^1 2:^1 1:^1 1:^1 1:^1 1:^1 1:^1 1:^1 1:^1 1:^1 1:^1 1:^1 "
  ++ "1:^1 1:^1 1:^1 1:^1 1:^1 1:^1 1:^1 1:^1 1:^1 1:^1 1:^1 1:^1 1:^1 1:^1 1:^1 1:^1 1:^1 1:^1 1:^1 "
  ++ "1:^1 1:^1 1:^1 1:^1 1:^1 1:^1 1:^1 1:^1 1:^1 1:^1 1:^1 1:^1 1:^1 1:^1 1:^1 1:^1 1:^1 1:^1 "
  ++ "2+11:^1C 1C:12D,136 6L:17R,19W 0:18O,19W 0:1C7,19W 0:18Q,19W KF:1SL,1TO 0:1SM,1TO 0:1SN,1TO "
  ++ "0:1SS,1TO 0:1SX,1TO 0:1SY,1TO 0:1T7,1TO 0:1TB,1TO 3G:1WH,1X8 0:1WI,1X8 1:1WV,1X8 2B:20I,20S "
  ++ "2:20O,20S Y:1ZQ,20S 0:1ZR,20S 0:1ZW,20S 2:20B,20S 71:275,27W 0:276,27W K5:2TP,2SY 3J:2X9,2WI "
  ++ "14:2WB,2VT 0:2WB,2W1 1A:_1 1I:30I,33R 9:30S,33R 4:30X,33R 4:312,33R 4:317,33R C:30G,33P "
  ++ "9:31T,31U 1:31T,31W 0:33M,328 0:33M,31T,328 0:33N,328 0:33N,31T,328 7:31T,328 H:32Q,33R "
  ++ "9:330,33R 4:335,33R 4:33A,33R 4:33F,33R C:32O,33P 6E+11:^5LS 1:^5LS 5:^5LS 1A:_W L7+5:_8 "
  ++ "1OI:_4SU 0:_4ST 0:_4SK 0+1:_4SI 0:_4SJ 0:_4SC 0:_4RO 0:^R7N 0:^1 6+16:_2BK 2+2:_2BK 30:_5OR "
  ++ "0:_5L3 0:_5OS 1+1:_5OS 0:_5ED 0+7:_5OS 1:_5OT 0:_5CQ 0:_5OU 0:_5OT 0+1:_5OS 0:_5OR 0:_5PE "
  ++ "0+1:_5BO 0:_1W 0:_5PH 0+1:_5PG 0:_5BL 0+1:_5BK 0:_5PI 1:_5PG 0:_5PF 0:_5JA 0:_5PF 0:_5BZ "
  ++ "0+1:_1Q 0:_5PI 0+1:_5PF 0:_1O 0:_5BF 0:_5PH 0:_1J 0+2:_52J 0+1:_522 0:_5Q1 0:_5PT 0+1:_5PR "
  ++ "0+1:_52S 0:_52F 0+1:_52B D:_4ZF Y:_5E1 0:_5RT 0:_5E0 0:_5NY 0:_5DV 0:_5RU 0:_5DU 0:_5DT 0:_5DQ "
  ++ "0+2:_5DO 0:_18 0:_5CB 0:_5DO 0:_11 0:_5CC 0:_5DN 0:_5DP 0+3:_5DO 0:_5DM 0+1:_5DD 0:_5JE "
  ++ "0+1:_5D9 0:_4C 0+1:_5DA 0:_5S1 0+2:_5D8 0:_553 1S:^1 1:^1 1:^1 1:^1 1:^1 1:^1 1:^1 1:^1 1:^1 "
  ++ "1:^1 1:^1 1:^1 1:^1 1:^1 1:^1 1:^1 1:^1 1:^1 1:^1 1:^1 1:^1 1:^1 1:^1 1:^1 1:^1 1:^1 1:^1 1:^1 "
  ++ "1:^1 1:^1 1:^1 1:^1 1:^1 1:^1 1:^1 1:^1 1:^1 1:^1 1:^1 1:^1 1:^1 1:^1 1:^1 1:^1 1:^1 1:^1 1:^1 "
  ++ "1:^1 1:^1 1:^1 1:^1 1:^1 1:^1 1:^1 1:^1 1:^1 1:^1 1:^1 1:^1 1:^1 1:^1 1:^1 1:^1 1:^1 1:^1 1:^1 "
  ++ "1:^1 1:^1 1:^1 1:^1 1:^1 1:^1 1:^1 1:^1 1:^1 5:2P,JI 0:_1M 2:_5VJ 1:^1 1:^1 1:^1 1:^1 1:^1 1:^1 "
  ++ "1:^1 1:^1 1:^1 1:^1 1:^1 1:^1 1:^1 1:^1 1:^1 1:^1 1:^1 1:^1 1:^1 1:^1 1:^1 1:^1 1:^1 1:^1 1:^1 "
  ++ "1:^1 1:^1 1:^1 1:^1 1:^1 1:^1 1:^1 1:^1 1:^1 1:^1 1:^1 1:^1 1:^1 1:^1 1:^1 1:^1 1:^1 1:^1 1:^1 "
  ++ "1:^1 1:^1 1:^1 1:^1 9+7:_8 8+5:_8 A+7:_8 8+7:_8 8+5:_8 B:_8 1:_8 1:_8 1:_8 8+7:_8 1:_5HH 1:_5HI "
  ++ "1:_5HJ 1:_5HK 1:_5GT 1:_5GU 1:_5GV 2:64G,QH 0:64H,QH 0:64I,QH 0:64J,QH 0:64K,QH 0:64L,QH "
  ++ "0:64M,QH 0:64N,QH 0:64G,QH 0:64H,QH 0:64I,QH 0:64J,QH 0:64K,QH 0:64L,QH 0:64M,QH 0:64N,QH "
  ++ "0:65C,QH 0:65D,QH 0:65E,QH 0:65F,QH 0:65G,QH 0:65H,QH 0:65I,QH 0:65J,QH 0:65C,QH 0:65D,QH "
  ++ "0:65E,QH 0:65F,QH 0:65G,QH 0:65H,QH 0:65I,QH 0:65J,QH 0:674,QH 0:675,QH 0:676,QH 0:677,QH "
  ++ "0:678,QH 0:679,QH 0:67A,QH 0:67B,QH 0:674,QH 0:675,QH 0:676,QH 0:677,QH 0:678,QH 0:679,QH "
  ++ "0:67A,QH 0:67B,QH 2:67K,QH 0:Q9,QH 0:Q4,QH 2:69I,QH 0+1:_8 0:_22 0:_5JJ 0:Q9,QH 0:W,LV 0:_5J9 "
  ++ "0:W,LV 0:W,N6 0:W,LK,N6 0:67O,QH 0:QF,QH 0:Q6,QH 2:69Y,QH 0:_2E 0:_5JW 0:_2E 0:_5JX 0:QF,QH "
  ++ "0:W,LV,LC 0:W,LV,LD 0:W,LV,N6 3:_5KZ 4+1:_8 0:_2S 0:_5KC 1:W,LW,LC 0:W,LW,LD 0:W,LW,N6 3:_5KJ "
  ++ "4+1:_8 0:_34 0:_5JY 0:_7 0:W,LK,LC 0:W,LK,LD 0:_68F 2:67W,QH 0:QX,QH 0:R2,QH 2:6BA,QH 0:_3K "
  ++ "0:_5KD 0:_3I 0:_5KD 0:QX,QH 0:W,LD 0:W,LW 1:_6AO 0:_6AP 0:_6AQ 0:_6AR 0:_6AS 0:_6AT 0:_6AU "
  ++ "0:_6AV 0:_6AW 0:_6AX 0:_6AY 6:_1 5:W,MR N:_6BZ 3:6CY,6CY 0:6CY,6CY,6CY 1:6D1,6D1 0:6D1,6D1,6D1 "
  ++ "4:X,X 1:W,LH 8:1R,1R 0:1R,X 0:X,1R D:6CY,6CY,6CY,6CY 7:_6DB G:_6DC 0:_6BS 2+5:_6DC 0:_6DR 0:^BB "
  ++ "0:_6DB 0+1:_6DX 0:_6C1 0+9:_6DS 0:_6E7 0:^AV 0:_6DR 0+1:_6ED 1:_6CV 0:_6CS 0:_6CJ 0:_6CB 0:_5YZ "
  ++ "0:_6CT 0+3:_6CR 0:_6CQ 0+1:_6CO B:36,37 2F:2P,1B,2R 0:2P,1B,37 0:_6FZ 0:4W,2R 1:2R,1B,33 "
  ++ "0:2R,1B,39 0:_624 1:4W,2U 0+1:_6G3 0:_6G4 0:_6G5 0:_6G6 0:_6AW 0:_6G7 0:_6G8 0:_6G6 0:_6G7 "
  ++ "1:_6G7 0:32,33 2+2:_6G9 0:_6GA 0:_6GB 2:37,31 0:38,2T,30 0:38,31 1:_6GA 1:_5ST 1:_6GE 1:_6GV "
  ++ "0:_6DI 0+1:_6H6 1:_6H6 0+1:_6H7 0:^S 0:_6H2 0:_6H1 0+3:_5ET 0:_6HC 1:2U,2P,3C 0:_5TO 0:_5U2 "
  ++ "0:_5U3 0:_5TR 0:^5T 4:_6HT 0+1:_6HU 0+1:_6HR 6:1D,6DG,1J 0:1D,6DG,1L 0:1D,6DG,1D,1C 0:1D,6DG,1F "
  ++ "0:1E,6DG,1F 0:1D,6DG,1H 0:1E,6DG,1H 0:1F,6DG,1H 0:1G,6DG,1H 0:1D,6DG,1I 0:1H,6DG,1I 0:1D,6DG,1K "
  ++ "0:1F,6DG,1K 0:1H,6DG,1K 0:1J,6DG,1K 0:1D,6DG 0:_6IF 0:2X,2X 0:2X,2X,2X 0:2X,3A 0:_6I6 0:3A,2X "
  ++ "0:3A,2X,2X 0:3A,2X,2X,2X 0:2X,3C 0:_6I9 0:3C,2X 0:3C,2X,2X 0:_6IO 0+1:_6IY 0:_6IQ 0:_6IV "
  ++ "0:2X,2X 0:2X,2X,2X 0:2X,3A 0:_6IM 0:3A,2X 0:3A,2X,2X 0:3A,2X,2X,2X 0:2X,3C 0:_6IP 0:3C,2X "
  ++ "0:3C,2X,2X 0:_6J4 0+1:_6JE 0:_6J6 3:^1 5:1C,6DG,1F 4I:6QZ,6QZ 0:6QZ,6QZ,6QZ 1:6R2,6R2 "
  ++ "0:6R2,6R2,6R2 6W+1:^2JJ 8L+8:_75B 0:1D,1C 0:1D,1D 0:1D,1E 0:1D,1F 0:1D,1G 0:1D,1H 0:1D,1I "
  ++ "0:1D,1J 0:1D,1K 0:1D,1L 0:1E,1C 0:14,1D,15 0:14,1E,15 0:14,1F,15 0:14,1G,15 0:14,1H,15 "
  ++ "0:14,1I,15 0:14,1J,15 0:14,1K,15 0:14,1L,15 0:14,1D,1C,15 0:14,1D,1D,15 0:14,1D,1E,15 "
  ++ "0:14,1D,1F,15 0:14,1D,1G,15 0:14,1D,1H,15 0:14,1D,1I,15 0:14,1D,1J,15 0:14,1D,1K,15 "
  ++ "0:14,1D,1L,15 0:14,1E,1C,15 K:14,2P,15 0:14,2Q,15 0:14,2R,15 0:14,2S,15 0:14,2T,15 0:14,2U,15 "
  ++ "0:14,2V,15 0:14,2W,15 0:14,2X,15 0:14,2Y,15 0:14,2Z,15 0:14,30,15 0:14,31,15 0:14,32,15 "
  ++ "0:14,33,15 0:14,34,15 0:14,35,15 0:14,36,15 0:14,37,15 0:14,38,15 0:14,39,15 0:14,3A,15 "
  ++ "0:14,3B,15 0:14,3C,15 0:14,3D,15 0:14,3E,15 0+P:_76D 0+P:_773 0:_796 10H:6QZ,6QZ,6QZ,6QZ "
  ++ "2V:1M,1M,1P 0:1P,1P 0:1P,1P,1P 2T:8GT,MW 83+1B:^1C 1C:^1 1:_8AF 0:_2XY 0:_89Z 2:^1 1:^1 1:^1 "
  ++ "1:_8BG 0:_8AL 0:_8BJ 0:_8BI 1:^1 2:^1 6:_8PE 0:_8P3 0+1:_8CF 0:^1 1:^1 1:^1 1:^1 1:^1 1:^1 1:^1 "
  ++ "1:^1 1:^1 1:^1 1:^1 1:^1 1:^1 1:^1 1:^1 1:^1 1:^1 1:^1 1:^1 1:^1 1:^1 1:^1 1:^1 1:^1 1:^1 1:^1 "
  ++ "1:^1 1:^1 1:^1 1:^1 1:^1 1:^1 1:^1 1:^1 1:^1 1:^1 1:^1 1:^1 1:^1 1:^1 1:^1 1:^1 1:^1 1:^1 1:^1 "
  ++ "1:^1 1:^1 1:^1 1:^1 1:^1 8:^1 1:^1 4:^1 3G:_E 8F:^C32 2B:^M98 C:^64G 0:^65J 0:^65W 0:^664 "
  ++ "0:^66T 0:^680 0:^686 0:^68P 0:^69E 0:^6RA 0:^6SB 0:^6SG 0:^6T2 0:^6TL 0:^6U5 0:^6VL 0:^6W5 "
  ++ "0:^6WF 0:^70P 0:^73A 0:^741 0:^745 0:^74Y 0:^756 0:^75W 0:^768 0:^76W 0:^78B 0:^78S 0:^79I "
  ++ "0:^7UH 0:^7WG 0:^897 0:^89T 0:^8A0 0:^8AA 0:^8AR 0:^8CU 0:^8Q2 0:^8RD 0:^8UO 0:^8VA 0:^8VS "
  ++ "0:^8WD 0:^8XU 0:^8XW 0:^97X 0:^986 0:^98H 0:^98T 0:^9C0 0:^9C7 0:^9CB 0:^9FJ 0:^9FS 0:^9G4 "
  ++ "0:^9GB 0:^9HZ 0:^9IF 0:^9IW 0:^9L3 0:^A17 0:^A2G 0:^A30 0:^ANJ 0:^ANN 0:^APX 0:^AQC 0:^AQO "
  ++ "0:^AR8 0:^ASA 0:^ASE 0:^AZS 0:^B0F 0:^B1A 0:^BTH 0:^BVA 0:^BVW 0:^BXH 0:^BY4 0:^BYC 0:^BYI "
  ++ "0:^BZX 0:^C01 0:^C0W 0:^CUU 0:^D78 0:^D7J 0:^D7N 0:^D7Q 0:^D7X 0:^D8E 0:^D8F 0:^DAN 0:^DGM "
  ++ "0:^DGQ 0:^DQ4 0:^DQD 0:^DRQ 0:^DRW 0:^DS4 0:^DSB 0:^DUT 0:^DUZ 0:^E1A 0:^E1G 0:^E2S 0:^E38 "
  ++ "0:^E4I 0:^EB2 0:^EB8 0:^EBO 0:^EKQ 0:^EO7 0:^EOC 0:^ETD 0:^EVR 0:^EX0 0:^F7H 0:^FB5 0:^FR2 "
  ++ "0:^FRS 0:^FTC 0:^FUQ 0:^FWL 0:^FWV 0:^FX0 0:^FXW 0:^FZZ 0:^G08 0:^G9T 0:^G9Z 0:^GA7 0:^GAF "
  ++ "0:^GAU 0:^GB8 0:^GBB 0:^GDH 0:^GDK 0:^GDP 0:^H4X 0:^H5Q 0:^HIQ 0:^HJ1 0:^HJN 0:^HRH 0:^HRT "
  ++ "0:^HTR 0:^HV0 0:^IAQ 0:^IB4 0:^IBI 0:^ICG 0:^IDG 0:^IIY 0:^IJ9 0:^IL3 0:^IRY 0:^ISS 0:^IYK "
  ++ "0:^IZ4 0:^IZ8 0:^J5B 0:^JAE 0:^JDU 0:^JDZ 0:^JE3 0:^K40 0:^K48 0:^K8J 0:^KCS 0:^KCU 0:^KE4 "
  ++ "0:^KH0 0:^KHC 0:^KHF 0:^KHL 0:^KKA 0:^KL7 0:^KLC 0:^KLP 0:^KQB 0:^KRP 0:^KRS 0:^KWU 0:^KWW "
  ++ "0:^KXE 0:^L4D 0:^L5O 0:^L5U 0:^L7R 0:^L80 0:^L82 0:^L8B 0:^L94 0:^LK2 0:^LV5 0:^LVE 0:^LWF "
  ++ "0:^LX0 0:^LX7 0:^LXG 0:^LXJ 0:^LYM 0:^LYP 0:^LZ5 0:^LZ9 0:^LZL 0:^M0B 0:^M0P 0:^M0W 0:^M2I "
  ++ "0:^M2W 0:^M2Z 16:_9GG 1:_9G4 1F:_10 1:^6X5 0+1:^6X7 2O:W,9LL 0:W,9LM 2:9L4,9L6 2N:9MB,9MW "
  ++ "1D+1:_6CX 0:_689 0:_6CY 0+1:_689 0+2:_6D0 0+5:_68A 0:_6CM 0+2:_6D7 0:_6CJ 0+9:_6D8 0+K:_6B2 "
  ++ "1+1:_6DT 0+1:_68W 0:_68T 0:_68S 0:_68O 0:_68L 0:_68K 0:_6DU 0:_68I 0:_68H 0+1:_6DW 0:_6DV "
  ++ "0+1:_6DU 0:_6DR 0:_6DQ 0+4:_6DP 0:_6DN 0:_6DK 0:_6DB 0:_6D5 0:_6D1 0+1:_68H 0+2:_6CT 0+1:_6BN "
  ++ "0:_6BL 0+1:_6BD 0:_6BC 0:_6B3 0:_6B1 3:^5M6 0:^5Q1 0:^5MD 0:^7D2 0:^5MC 0:^5NA 0:^5MB 0:^DCP "
  ++ "0:^5OF 0:^5MM 0:^5LX 0:^7T8 0:^7F6 0:^5QZ 2O:14,3CW,15 0:14,3CY,15 0:14,3CZ,15 0:14,3D1,15 "
  ++ "0:14,3D2,15 0:14,3D3,15 0:14,3D5,15 0:14,3D7,15 0:14,3D8,15 0:14,3DA,15 0:14,3DB,15 0:14,3DC,15 "
  ++ "0:14,3DD,15 0:14,3DE,15 0:14,XZ4,15 0:14,YVS,15 0:14,ZC4,15 0:14,108S,15 0:14,10P4,15 "
  ++ "0:14,115G,15 0:14,1224,15 0:14,12YS,15 0:14,13F4,15 0:14,14BS,15 0:14,14S4,15 0:14,158G,15 "
  ++ "0:14,15OS,15 0:14,1654,15 0:14,13P8,15 0:14,1350,13IC,15 0:14,1350,16F8,15 1:14,FEO,15 "
  ++ "0:14,FIK,15 0:14,FEX,15 0:14,H5N,15 0:14,FIS,15 0:14,G31,15 0:14,FER,15 0:14,G2Z,15 0:14,FH9,15 "
  ++ "0:14,GG1,15 0:14,KCO,15 0:14,M7F,15 0:14,LDG,15 0:14,KDK,15 0:14,SSX,15 0:14,H7J,15 0:14,K4L,15 "
  ++ "0:14,KKQ,15 0:14,KCP,15 0:14,NY6,15 0:14,GLP,15 0:14,MM1,15 0:14,RS1,15 0:14,NZ1,15 0:14,GC4,15 "
  ++ "0:14,FKZ,15 0:14,GOS,15 0:14,I1Y,15 0:14,NHF,15 0:14,FLT,15 0:14,RT3,15 0:14,GGK,15 0:14,NZH,15 "
  ++ "0:14,FM9,15 0:14,PNU,15 0:14,PO3,15 0:^6X7 0:^8QF 0:^A4H 0:^EH4 8:34,38,2T 0:1E,1D 0:1E,1E "
  ++ "0:1E,1F 0:1E,1G 0:1E,1H 0:1E,1I 0:1E,1J 0:1E,1K 0:1E,1L 0:1F,1C 0:1F,1D 0:1F,1E 0:1F,1F 0:1F,1G "
  ++ "0:1F,1H 0:_6LC 0+1:_6LB 0+2:_6LA 0:_6L9 0+1:_6L8 0+4:_6L7 0:^O0I 0:^OX5 0:^PDG 0:^QA3 0:^QQE "
  ++ "0:^R6P 0:^S3C 0:^SZZ 0:^TGA 0:^UCX 0:^UT8 0:^V9J 0:^VPU 0:^W65 0:14C8,Y5C 0:13P8,13DK 0:^T9U "
  ++ "1:^5FK 0:^5JF 0:^5FR 0:^76G 0:^5JK 0:^63S 0:^5FH 0:^63O 0:^5HX 0:^6GO 0:^ADA 0:^C80 0:^BE0 "
  ++ "0:^AE3 0:^ITF 0:^780 0:^A51 0:^AL5 0:^AD3 0:^DYJ 0:^6M1 0:^CMC 0:^HSB 0:^DZA 0:^6CC 0:^E2N "
  ++ "0:^D5P 0:^7O8 0:^IJ1 0:^619 0:^6HE 0:^BIH 0:^K11 0:^5M8 0:^647 0:^B7K 0:^5EU 0:^5FS 0:^5ET "
  ++ "0:^8JJ 0:^6KR 0:^6FM 0:^831 0:^81N 0:^DH3 0:^5LG 0:^HSP 0:^6G5 0:^7L8 0:1F,1I 0:1F,1J 0:1F,1K "
  ++ "0:1F,1L 0:1G,1C 0:1G,1D 0:1G,1E 0:1G,1F 0:1G,1G 0:1G,1H 0:1G,1I 0:1G,1J 0:1G,1K 0:1G,1L 0:1H,1C "
  ++ "0:1D,KCO 0:1E,KCO 0:1F,KCO 0:1G,KCO 0:1H,KCO 0:1I,KCO 0:1J,KCO 0:1K,KCO 0:1L,KCO 0:1D,1C,KCO "
  ++ "0:1D,1D,KCO 0:1D,1E,KCO 0:2W,2V 0:2T,36,2V 0:2T,3A 0:30,38,2S 0:_FI 0:_FH 0:_FG 0:_FF 0+1:_FE "
  ++ "0:_FD 0:_FC 0:_FB 0:_FA 0:_F9 0:_F8 0:_F7 0:_F6 0:_F5 0:_F4 0:_F3 0:_F1 0:_F0 0:_EZ 0+5:_EY "
  ++ "0:_EW 0:_EU 0:_ES 0:_EQ 0+4:_EO 0:_EN 0:_EM 0+5:_EL 0+3:_EK 0:FL0,GP8 0:9LU,9N5,9OC,9MW "
  ++ "0:9LU,9NV,9N9,9LT 0:9LU,9O3,9NE,9LU 0:9LU,9OC,9NV 0:9LW,9MZ,9O3,9M8 0:9LW,9O3,9MP 0:9LY,9M1,9O3 "
  ++ "0:9M0,9MH,9M7,9OC,9MX 0:9M0,9OC,9M3,9OC 0:9M2,9O3,9MH 0:9M2,9OC,9NK 0:9M3,9LW,9NU "
  ++ "0:9M3,9NT,9MR,9MW 0:9M3,9NX,9NU,9OC 0:9M4,9NX,9O3 0:9M4,9O3,9NI 0:9M6,9M4 0:9M6,9MZ,9OC "
  ++ "0:9M5,9NP,9NU,9OC 0:9M6,9NV,9MO,9OC 0:9M5,9NX 0:9M5,9NX,9M8,9NT,9NK 0:9M5,9NX,9NL,9OC,9MW,9NV "
  ++ "0:9M5,9NX,9NZ,9MR,9MW 0:9M8,9NT,9NK 0:9M8,9NT,9NK,9MW,9O3 0:9M7,9NV,9MK,9LW,9NX "
  ++ "0:9M7,9NX,9OC,9N1 0:9M9,9OC,9MH 0:9MB,9NV,9MY 0:9MB,9OC,9NH 0:9MD,9LW,9M7,9NV "
  ++ "0:9MD,9O3,9MP,9OC,9NK 0:9MF,9NU,9O3,9M8 0:9MJ,9O3,9MP 0:9MJ,9O3,9MW 0:9MO,9OC,9MH 0:9MV,9MF "
  ++ "0:9MX,9NV 0:9MW,9O3 0:9MY,9N2 0:9N2,9MR,9MW 0:9N3,9LW,9MS 0:9N5,9OC,9MJ,9O3,9MW 0:9N5,9OC,9MS "
  ++ "0:9N4,9OC,9NW,9NV 0:9N8,9LU,9MH,9MW,9NV 0:9N8,9M7,9NV 0:9N8,9MB 0:9N7,9NV 0:9N9,9LT,9NT,9MR,9MX "
  ++ "0:9N9,9LV,9OC,9MW 0:9NA,9MR,9MF,9LZ,9NV 0:9N9,9NT,9O3 0:9NC,9M7,9MN,9OC,9NV 0:9NE,9ML "
  ++ "0:9NE,9MZ,9N6 0:9NC,9NV,9MS 0:9NE,9O3,9MH 0:9NE,9OC,9MG 0:9ND,9OC,9MN 0:9NH,9LW,9O3,9MW "
  ++ "0:9NG,9NV,9MW 0:9NF,9O3 0:9NH,9O3,9MX 0:9NF,9OC,9NV 0:9NF,9OC,9O3 0:9NI,9LW,9M7,9NX "
  ++ "0:9NI,9LW,9NV 0:9NI,9MR,9N3 0:9NI,9NV,9M7 0:9NI,9O3,9MF,9NR,9O3 0:9NJ,9M7,9NX,9O3 0:9NJ,9NU "
  ++ "0:9NJ,9NU,9N4,9OC,9NV 0:9NL,9M4 0:9NL,9M4,9MW,9O3 0:9NL,9OC,9MW,9NV 0:9NO,9OC,9MX 0:9NO,9OC,9NV "
  ++ "0:9NQ,9LU,9O3 0:9NU,9MR,9MW,9NV 0:9NU,9NT 0:9NV,9N8,9OC 0:9NV,9OC,9NA,9NV 0:9NW,9NK "
  ++ "0:9NW,9O3,9MW,9MA,9O3 0:9NZ,9MR,9MW 0:1C,M9L 0:1D,M9L 0:1E,M9L 0:1F,M9L 0:1G,M9L 0:1H,M9L "
  ++ "0:1I,M9L 0:1J,M9L 0:1K,M9L 0:1L,M9L 0:1D,1C,M9L 0:1D,1D,M9L 0:1D,1E,M9L 0:1D,1F,M9L 0:1D,1G,M9L "
  ++ "0:1D,1H,M9L 0:1D,1I,M9L 0:1D,1J,M9L 0:1D,1K,M9L 0:1D,1L,M9L 0:1E,1C,M9L 0:1E,1D,M9L 0:1E,1E,M9L "
  ++ "0:1E,1F,M9L 0:1E,1G,M9L 0:2W,34,2P 0:2S,2P 0:2P,39 0:2Q,2P,36 0:33,3A 0:34,2R 0:2S,31 "
  ++ "0:2S,31,1E 0:2S,31,1F 0:2X,39 0:INN,JDC 0:K6L,GP8 0:HLZ,L7N 0:K5Q,LH7 0:KKQ,IRZ,FMI,NY6 0:34,2P "
  ++ "0:32,2P 0:QK,2P 0:31,2P 0:2Z,2P 0:2Z,2Q 0:31,2Q 0:2V,2Q 0:2R,2P,30 0:2Z,2R,2P,30 0:34,2U "
  ++ "0:32,2U 0:QK,2U 0:QK,2V 0:31,2V 0:2Z,2V 0:2W,3E 0:2Z,2W,3E 0:31,2W,3E 0:2V,2W,3E 0:38,2W,3E "
  ++ "0:QK,30 0:31,30 0:2S,30 0:2Z,30 0:2U,31 0:32,31 0:QK,31 0:31,31 0:2R,31 0:2Z,31 0:31,31,1E "
  ++ "0:2R,31,1E 0:31,1E 0:2Z,31,1E 0:31,31,1F 0:2R,31,1F 0:31,1F 0:2Z,31,1F 0:31,6QD,37 "
  ++ "0:31,6QD,37,1E 0:34,2P 0:2Z,34,2P 0:31,34,2P 0:2V,34,2P 0:36,2P,2S 0:36,2P,2S,6QD,37 "
  ++ "0:36,2P,2S,6QD,37,1E 0:34,37 0:32,37 0:QK,37 0:31,37 0:34,3A 0:32,3A 0:QK,3A 0:31,3A 0:2Z,3A "
  ++ "0:31,3A 0:34,3B 0:32,3B 0:QK,3B 0:31,3B 0:2Z,3B 0:31,3B 0:2Z,QX 0:31,QX 1:2Q,35 0:2R,2R 0:2R,2S "
  ++ "0:2R,6QD,2Z,2V 1:2S,2Q 0:2V,3D 0:2W,2P 0:2W,34 0:2X,32 0:2Z,2Z 0:2Z,31 0:2Z,38 0:30,31 0:30,32 "
  ++ "0:30,33,2V 0:30,3C 0:31,2Q 0:31,2X,30 0:31,33,30 0:34,2W 1:34,34,31 0:34,36 0:37,36 0:37,3A "
  ++ "0:3B,2Q 0:3A,6QD,31 0:2P,6QD,31 0:1D,K4L 0:1E,K4L 0:1F,K4L 0:1G,K4L 0:1H,K4L 0:1I,K4L 0:1J,K4L "
  ++ "0:1K,K4L 0:1L,K4L 0:1D,1C,K4L 0:1D,1D,K4L 0:1D,1E,K4L 0:1D,1F,K4L 0:1D,1G,K4L 0:1D,1H,K4L "
  ++ "0:1D,1I,K4L 0:1D,1J,K4L 0:1D,1K,K4L 0:1D,1L,K4L 0:1E,1C,K4L 0:1E,1D,K4L 0:1E,1E,K4L 0:1E,1F,K4L "
  ++ "0:1E,1G,K4L 0:1E,1H,K4L 0:1E,1I,K4L 0:1E,1J,K4L 0:1E,1K,K4L 0:1E,1L,K4L 0:1F,1C,K4L 0:1F,1D,K4L "
  ++ "0:2V,2P,30 MKG:^1 1:^1 1:^1 1:^1 1:^1 1:^1 1:^1 1:^1 1:^1 1:^1 1:^1 1:^1 1:^1 1:^1 1:^1 1:^1 "
  ++ "1:^1 1:^1 1:^1 1:^1 1:^1 1:^1 1:^1 J:^1 1:^1 1:^1 1:^1 1:^1 1:^1 1:^1 1:^1 1:^1 1:^1 1:^1 1:^1 "
  ++ "1:^1 1:^1 1:_W2A 0:_W29 3O:^1 1:^1 1:^1 1:^1 1:^1 1:^1 1:^1 3:^1 1:^1 1:^1 1:^1 1:^1 1:^1 1:^1 "
  ++ "1:^1 1:^1 1:^1 1:^1 1:^1 1:^1 1:^1 1:^1 1:^1 1:^1 1:^1 1:^1 1:^1 1:^1 1:^1 1:^1 1:^1 1:^1 1:^1 "
  ++ "1:^1 1:^1 1:^1 1:^1 1:^1 1:_1 8:^1 1:^1 1:_R9G 0:^1 1:^1 1:^1 1:^1 1:^1 4:^1 1:_WMG 2:^1 1:^1 "
  ++ "3:^1 1:^1 1:^1 1:^1 1:^1 1:^1 1:^1 1:^1 1:^1 1:^1 1:_WN8 0:_WNJ 0:_WNF 0:_WN5 0:_WN8 1:_WLU "
  ++ "0:_WMI 0:_WLX 0:^PS 0:^1 1:^1 1:^1 1:^1 1:^1 1:^1 1:^1 1:^1 1:_1C 0:_WN7 0:_RAW 0:^1 1:^1 "
  ++ "1:_WO7 0:^1 1:^1 1:^1 1:^1 1:^1 1:^1 1:^1 1:^1 1:_WU9 K:_X32 0:_X3J 0:_X3H 0:_X37 0:^1 2:_WY9 "
  ++ "0:_WX2 O2:_TX 0:_12 0:_XDF 0:_D 9:_XCS 6+27:_TZK F9C:_LH4 0:_SUL 0:_KZC 0:_LDN 0:_RAR 0:_XQR "
  ++ "0:_WM9 0:_HNV 0:_HNW 0:_VJS 0:_KE1 0:_WAS 0:_VK4 0:_TUF 0:_PT1 0:_O0A 0:_MOH 0:_MDZ 0:_M56 "
  ++ "0:_KN8 0:_S9E 0:_RNE 0:_QWT 0:_QBD 0:_N2Z 0:_KHB 0:_ISP 0:_XP5 0:_WPZ 0:_S2H 0:_QO3 0:_MPE "
  ++ "0:_HZ6 0:_US1 0:_R3R 0:_MS6 0:_M2O 0:_TP8 0:_NKE 0:_MBS 0:_UHQ 0:_SUQ 0:_RLS 0:_QI7 0:_KM6 "
  ++ "0:_XIF 0:_X2V 0:_WUP 0:_TBG 0:_S4E 0:_QOY 0:_PQK 0:_NXV 0:_MR3 0:_MOQ 0:_L6W 0:_JD2 0:_IIY "
  ++ "0:_I0W 0:_PF3 0:_P8D 0:_OF1 0:_N79 0:_K6Z 0:_HXD 0:_LT7 0:_VOJ 0:_UGV 0:_OO4 0:_NUV 0:_QN8 "
  ++ "0:_PDP 0:_LFQ 0:_JF6 0:_VOY 0:_UZT 0:_SAH 0:_RJN 0:_RB3 0:_OIO 0:_OBD 0:_JK6 0:_WW0 0:_NUW "
  ++ "0:_X2W 0:_X3D 0:_P4Q 0:_OEX 0:_N6V 0:_JJ8 0:_LP6 0:_TQK 0:_SBE 0:_LSV 0:_XT1 0:_V3S 0:_UA6 "
  ++ "0:_QFU 0:_Q2A 0:_WUK 0:_PD5 0:_XIE 0:_UD9 0:_XUI 0:_RRW 0:_T81 0:_OJS 0:_WQ0 0:_VTA 0:_PRG "
  ++ "0:_N51 0:_LVP 0:_RZQ 0:_KW1 0:_RU2 0:_TPX 0:_NF3 0:_TLH 0:_Q35 0:_XQH 0:_X73 0:_X4G 0:_SMX "
  ++ "0:_OLW 0:_NIL 0:_LUZ 0:_KHB 0:_WWA 0:_WN2 0:_VM6 0:_UJA 0:_T6M 0:_R5Y 0:_PCR 0:_JQ1 0:_ISD "
  ++ "0:_HYP 0:_HX7 0:_WZ3 0:_SZP 0:_S2D 0:_KYZ 0:_UMY 0:_U0V 0:_TXS 0:_TFB 0:_RCF 0:_QX6 0:_QA3 "
  ++ "0:_P8R 0:_OF6 0:_NXK 0:_L0Y 0:_N1N 0:_KTZ 0:_K7L 0:_X39 0:_WZE 0:_WKH 0:_R13 0:_MAM 0:_LX3 "
  ++ "0:_UL5 0:_UCU 0:_TNT 0:_S1J 0:_ORS 0:_QIA 0:_XQC 0:_W4W 0:_V5V 0:_USX 0:_UC0 0:_QGR 0:_QBP "
  ++ "0:_O45 0:_NZE 0:_KFX 0:_JI4 0:_JFV 0:_JA4 0:_XM2 0:_PAG 0:_KJN 0:_JK0 0:_U6W 0:_XTG 0:_XCX "
  ++ "0:_V66 0:_V3Y 0:_T9H 0:_SE5 0:_QUQ 0:_PZ3 0:_N2E 0:_KSN 0:_HTJ 0:_T31 0:_JO8 0:_X1A 0:_SWD "
  ++ "0:_ST2 0:_RRD 0:_RHR 0:_QF7 0:_Q5W 0:_PK3 0:_ON3 0:_J8Y 0:_X9G 0:_TYC 0:_JMJ 0:_XIH 0:_UYK "
  ++ "0:_RN0 0:_L2L 0:_UH9 0:_U51 0:_SSJ 0:_QJ8 0:_JME 0:_X4K 0:_WR3 0:_V3U 0:_T71 0:_SYB 0:_SOQ "
  ++ "0:_RUM 0:_QFY 0:_Q2R 0:_O6L 0:_MC8 0:_MBR 0:_KKD 0:_JK8 0:_WX8 0:_RHU 0:_WR4 0:_QVY 0:_QC7 "
  ++ "0:_MWM 0:_JM6 0:_IHN 0:_I1G 0:_SWT 0:_ROQ 0:_NPQ 0:_P4C 0:_P20 0:_ORR 0:_QPM 0:_R4Y 0:_LUS "
  ++ "0:_XTP 0:_NGO 0:_X51 0:_X6H 0:_UOR 0:_TV3 0:_OQ5 0:_VB3 0:_RTZ 0:_T3M 0:_L3G 0:_MGS 0:_JP8 "
  ++ "0:_M7Z 0:_UNS 0:_XCC 0:_WGD 2:_VXY 1:_T5Q 2:_X87 0:_QNG 0:_PXP 0:_PGC 0:_PFF 0:_PF9 0:_PE4 "
  ++ "0:_JIE 0:_ORJ 0:_O69 1:_MXA 1:_LYI 2:_KX9 0:_KRT 3:_J7F 0:_J73 0:_J5W 0:_I9L 0:_KSW 0:_JNC "
  ++ "0:_XOI 0:_XFU 0:_XD1 0:_X2I 0:_X1S 0:_WYS 0:_WIH 0:_WFL 0:_WCW 0:_VZT 0:_VWY 0:_V6F 0:_V66 "
  ++ "0:_UCP 0:_U6U 0:_U5T 0:_U32 0:_TF6 0:_TB4 0:_T6A 0:_SSF 0:_RTA 0:_ROS 0:_RHH 0:_R16 0:_QVY "
  ++ "0:_QI0 0:_PMI 0:_PHQ 0:_PHG 0:_PHI 0:_PHB 0:_PH6 0:_PH0 0+1:_PFP 0:_PAS 0:_P90 0:_P06 0:_OKJ "
  ++ "0:_OJZ 0:_OIG 0:_OA0 0:_O5Y 0:_NSF 0:_NOK 0:_NOL 0:_NBC 0:_MDS 0:_MA3 0:_M01 0:_LYI 0:_LN5 "
  ++ "0:_LLP 0:_L2O 0:_KZ3 0:_JNP 0:_JFU 0:_JE7 0:_UEU 0:^1SW2 0:_NRP 2:_Y16 0:_XBW 0:_XE2 0:_XRN "
  ++ "0:_XF3 0:_XDH 0:_X4F 0:_X31 0:_WKB 0:_WMC 0:_WKH 0:_WIH 0:_W0Y 0:_VYI 0:_VUI 0:_VU3 0:_VMM "
  ++ "0:_VH5 0:_UR4 0:_UQY 0:_UMZ 0:_UL4 0:_UCU 0:_U9L 0:_UBK 0:_U7V 0:_U96 0:_U55 0:_U3C 0:_TS9 "
  ++ "0:_TPU 0:_TOD 0:_TH6 0:_T99 0:_T4R 0:_T4O 0:_T32 0:_S9O 0:_S7W 0:_RX2 0:_RLP 0:_RM6 0:_RJS "
  ++ "0:_RCT 0:_R3I 0:_PVA 0:_QY1 0:_QUO 0:_QRA 0:_QI8 0:_QE4 0:_QCO 0:_Q6F 0:_Q6E 0:_Q1O 0:_Q18 "
  ++ "0:_Q0K 0:_PY7 0:_PYI 0:_PNJ 0:_PA3 0:_P2L 0:_OXF 0:_OR8 0:_ON0 0:_ODV 0:_O8D 0:_NKX 0:_NGL "
  ++ "0:_MRG 0:_MET 0:_MCX 0:_MCI 0:_M4A 0:_M2Q 0:_M40 0:_M2J 0:_M2N 0:_M35 0:_M12 0:_LYU 0:_LO9 "
  ++ "0:_L8Q 0:_L01 0:_KRV 0:_KLR 0:_JT6 0:_JQC 0:_JN6 0:_JJI 0:_JIJ 0:_JI8 0:_JGX 0:_IWR 0:_I0I "
  ++ "0:^1NJV 0:^1NJO 0:^1PTW 0:_11RP 0:_10VV 0:_10UZ 0:^1VUC 0:^1XX6 0:^24N0 0:_I39 0:_I17 12:2U,2U "
  ++ "0:2U,2X 0:2U,30 0:2U,2U,2X 0:2U,2U,30 0+1:37,38 C:12S,12U 0:12S,12D 0:12S,12J 0:132,12U "
  ++ "0:12S,12L 5:15L,14K 1:16A,14N 0:_1CFY 0:_1CGH 0+1:_1CGF 0+2:_1CG9 0:_1CFZ 0:_1CFY 0:_1DKU "
  ++ "0:161,14X 0:161,14Y 0:161,14S,14X 0:161,14S,14Y 0:15C,14N 0:15C,14O 0:15C,14S 0:15D,14S "
  ++ "0:15E,14S 0:15F,14S 0:15G,14S 0:15H,14S 0:15I,14S 1:15K,14S 0:15L,14S 0:15M,14S 0:15N,14S "
  ++ "0:15O,14S 1:15Q,14S 1:15S,14S 0:15T,14S 1:15V,14S 0:15W,14S 1:15Y,14S 0:15Z,14S 0:160,14S "
  ++ "0:161,14S 0:162,14S 0:15H,14P 0:15D,14V 0:15N,14V 0:15W,14V 0:15C,15O 0:_1CDB 0:_1CDC 0:_1CD3 "
  ++ "0:_1CD4 0:_1CD5 0:_1CD6 0:_1CD4 0:_1CD5 0:_1CD6 0:_1CD7 0:_1CD6 0:_1CD7 0:_1CD8 0:_1CD9 0:_1CDG "
  ++ "0:_1CDH 0:_1CDI 0:_1CDJ 0:_1CDF 0:_1CDG 0:_1CDH 0:_1CDI 0:_1CDP 0:_1CDQ 0:_1CDR 0:_1CDS 0:_1CCM "
  ++ "0:_1CCN 0:_1CCO 0:_1CCP 0:_1CCO 0:_1CCP 0:_1CCQ 0:_1CCR 0:_1CDQ 0:_1CDR 0:_1CDS 0:_1CDT 0:_1CDV "
  ++ "0:_1CDW 0:_1CDX 0:_1CDY 0:_1CDW 0:_1CDX 0:_1CDY 0+1:_1CDZ 0:_1CE0 0:_1CE1 0:_1CE2 0:_1CDX "
  ++ "0:_1CDY 0:_1CE0 0:_1CE1 0:_1CE0 0:_1CE1 0:_1CE8 0:_1CE9 0:_1CDU 0:_1CDV 0:_1CE3 0:_1CE4 0:_1CDH "
  ++ "0:_1CDI 0:_1CDJ 0:_1CDK 0:_1CDF 0:_1CDG 0:_1CDH 0:_1CDI 0:_1CDF 0:_1CDG 0:_1CDH 0:_1CDI 0:_1CDL "
  ++ "0:_1CDM 0:_1CDN 0:_1CDO 0:_1CDG 0+1:_1CDH 0:_1CDI 0:_1CDJ 0:_1CDK 0:_1CDG 0+1:_1CDH 0:_1CDI "
  ++ "0:_1CDJ 0:_1CDK 0:_1CDO 0:_1CDP 0:_1CDQ 0:_1CDR 0:_1CD8 0+1:_1CD9 0:_1CDA X:_1CFA 0:_1CFB "
  ++ "0:_1CFC 0:_1CFD 0:_1CEO 0:_1CEP 0:_1CER 0:_1CES 0:_1CER 0:_1CES 0:1C7,19W 0:_1CER 0:_1CES "
  ++ "0:_1CEZ 0:_1CF0 0:_1CEX 0:_1CEY 0:_1CES 0:_1CET 0:_1CEU 0:_1CEV 0:_1CIN 0:_1CIO 0+1:17Q,17R "
  ++ "0+1:17Q,1CL 0+1:17Q,18O 0+1:17Q,1C7 0+1:17Q,1C6 0+1:17Q,1C8 0+2:17Q,1CG 0+2:17Q,18P 0:_1CFK "
  ++ "0:_1CFL 0:_1CFM 0:_1CFN 0:17Q,17W 0:17Q,17X 0:17Q,18L 0:17Q,18P 0:17Q,18Q 0:17S,17W 0:17S,17X "
  ++ "0:17S,17Y 0:17S,18L 0:17S,18P 0:17S,18Q 0:17U,17W 0:17U,17X 0:17U,17Y 0:17U,18L 0:17U,18P "
  ++ "0:17U,18Q 0:17V,17W 0:17V,18L 0:17V,18P 0:17V,18Q 0:17W,17X 0:17W,18L 0:17X,17W 0:17X,18L "
  ++ "0:17Y,17W 0:17Y,17X 0:17Y,18L 0:183,17W 0:183,17X 0:183,17Y 0:183,18L 0:185,17X 0:185,18L "
  ++ "0:186,17W 0:186,17X 0:186,17Y 0:186,18L 0:187,17X 0:187,18L 0:188,18L 0:189,17W 0:189,18L "
  ++ "0:18A,17W 0:18A,18L 0:18H,17W 0:18H,17X 0:18H,17Y 0:18H,18L 0:18H,18P 0:18H,18Q 0:18I,17X "
  ++ "0:18I,18L 0:18I,18P 0:18I,18Q 0:18J,17R 0:18J,17W 0:18J,17X 0:18J,17Y 0:18J,18K 0:18J,18L "
  ++ "0:18J,18P 0:18J,18Q 0:18K,17W 0:18K,17X 0:18K,17Y 0:18K,18L 0:18K,18P 0:18K,18Q 0:18L,17W "
  ++ "0:18L,17X 0:18L,17Y 0:18L,18L 0:18L,18P 0:18L,18Q 0:18M,17W 0:18M,17X 0:18M,17Y 0:18M,18L "
  ++ "0:18M,18P 0:18M,18Q 0:18N,17W 0:18N,18L 0:18N,18P 0:18N,18Q 0:18Q,17W 0:18Q,17X 0:18Q,17Y "
  ++ "0:18Q,18L 0:18Q,18P 0:18Q,18Q 0:180,19S 0:181,19S 0:18P,19S 0:W,18S,18X 0:W,18T,18X 0:W,18U,18X "
  ++ "0:W,18V,18X 0:W,18W,18X 0:W,18X,19S 0:17Q,181 0:17Q,182 0:17Q,18L 0:17Q,18M 0:17Q,18P 0:17Q,18Q "
  ++ "0:17S,181 0:17S,182 0:17S,18L 0:17S,18M 0:17S,18P 0:17S,18Q 0:17U,181 0:17U,182 0:17U,18L "
  ++ "0:17U,18M 0:17U,18P 0:17U,18Q 0:17V,181 0:17V,182 0:17V,18L 0:17V,18M 0:17V,18P 0:17V,18Q "
  ++ "0:18H,18P 0:18H,18Q 0:18I,18P 0:18I,18Q 0:18J,17R 0:18J,18K 0:18J,18L 0:18J,18P 0:18J,18Q "
  ++ "0:18K,18L 0:18K,18P 0:18K,18Q 0:18L,17R 0:18L,18L 0:18M,181 0:18M,182 0:18M,18L 0:18M,18M "
  ++ "0:18M,18P 0:18M,18Q 0:18P,19S 0:18Q,181 0:18Q,182 0:18Q,18L 0:18Q,18M 0:18Q,18P 0:18Q,18Q "
  ++ "0:17Q,17W 0:17Q,17X 0:17Q,17Y 0:17Q,18L 0:17Q,18N 0:17S,17W 0:17S,17X 0:17S,17Y 0:17S,18L "
  ++ "0:17S,18N 0:17U,17W 0:17U,17X 0:17U,17Y 0:17U,18L 0:17U,18N 0:17V,18L 0:17W,17X 0:17W,18L "
  ++ "0:17X,17W 0:17X,18L 0:17Y,17W 0:17Y,18L 0:183,17W 0:183,17X 0:183,17Y 0:183,18L 0:185,17X "
  ++ "0:185,17Y 0:185,18L 0:186,17W 0:186,17X 0:186,17Y 0:186,18L 0:187,17X 0:188,18L 0:189,17W "
  ++ "0:189,18L 0:18A,17W 0:18A,18L 0:18H,17W 0:18H,17X 0:18H,17Y 0:18H,18L 0:18I,17X 0:18I,18L "
  ++ "0:18J,17W 0:18J,17X 0:18J,17Y 0:18J,18K 0:18J,18L 0:18K,17W 0:18K,17X 0:18K,17Y 0:18K,18L "
  ++ "0:18K,18N 0:18L,17W 0:18L,17X 0:18L,17Y 0:18L,18L 0:18M,17W 0:18M,17X 0:18M,17Y 0:18M,18L "
  ++ "0:18M,18N 0:18N,17W 0:18N,18L 0:18N,19S 0:18Q,17W 0:18Q,17X 0:18Q,17Y 0:18Q,18L 0:18Q,18N "
  ++ "0:17Q,18L 0:17Q,18N 0:17S,18L 0:17S,18N 0:17U,18L 0:17U,18N 0:17V,18L 0:17V,18N 0:183,18L "
  ++ "0:183,18N 0:184,18L 0:184,18N 0:18J,18K 0:18J,18L 0:18K,18L 0:18M,18L 0:18M,18N 0:18Q,18L "
  ++ "0:18Q,18N 0:18G,18U,18X 0:18G,18V,18X 0:18G,18W,18X 0:187,18P 0:187,18Q 0:189,18P 0:189,18Q "
  ++ "0:18A,18P 0:18A,18Q 0:183,18P 0:183,18Q 0:184,18P 0:184,18Q 0:17X,18P 0:17X,18Q 0:17W,18P "
  ++ "0:17W,18Q 0:17Y,18P 0:17Y,18Q 0:185,18P 0:185,18Q 0:186,18P 0:186,18Q 0:184,17W 0:184,17X "
  ++ "0:184,17Y 0:184,18L 0:184,181 0:183,181 0:185,181 0:186,181 0:187,18P 0:187,18Q 0:189,18P "
  ++ "0:189,18Q 0:18A,18P 0:18A,18Q 0:183,18P 0:183,18Q 0:184,18P 0:184,18Q 0:17X,18P 0:17X,18Q "
  ++ "0:17W,18P 0:17W,18Q 0:17Y,18P 0:17Y,18Q 0:185,18P 0:185,18Q 0:186,18P 0:186,18Q 0:184,17W "
  ++ "0:184,17X 0:184,17Y 0:184,18L 0:184,181 0:183,181 0:185,181 0:186,181 0:184,17W 0:184,17X "
  ++ "0:184,17Y 0:184,18L 0:183,18N 0:184,18N 0:187,18L 0:183,17W 0:183,17X 0:183,17Y 0:184,17W "
  ++ "0:184,17X 0:184,17Y 0:187,18L 0:188,18L 0+1:17R,18R I:17U,17W,18L 0+1:17U,17X,17W 0:17U,17X,18L "
  ++ "0:17U,17Y,18L 0:17U,18L,17W 0:17U,18L,17X 0:17U,18L,17Y 0+1:17W,18L,17X 0:17X,18L,18Q "
  ++ "0:17X,18L,18P 0:183,17X,17W 0:183,17W,17X 0:183,17W,18P 0+1:183,18L,17X 0:183,18L,17W "
  ++ "0+1:183,18L,18L 0+1:185,17X,17X 0:185,18L,18L 0+1:184,17X,18L 0:184,17W,18Q 0+1:184,18L,17Y "
  ++ "0+1:184,18L,18L 0:186,17X,18P 0+1:186,17Y,18L 0+1:187,18L,17X 0:187,18L,18L 0:187,18L,18Q "
  ++ "0:189,17W,18L 0+1:189,18L,18L 0:189,18L,18P 0:18A,18L,18L 0:18A,18L,18Q 0:18A,18L,18P "
  ++ "0+1:18H,17Y,18L 0:18I,18L,17X 0:18I,18L,18L 0:18K,17X,18L 0:18K,17X,18Q 0:18K,17X,18P "
  ++ "0+1:18K,17W,17W 0+1:18K,17Y,18L 0+1:18K,18L,17X 0:18L,17X,17W 0:18L,17X,18L 0:18L,17X,18Q "
  ++ "0:18L,17W,17X 0:18L,17W,18L 0:18L,17Y,17W 0:18L,17Y,18L 2:18L,17W,17Y 0:18N,18L,17W "
  ++ "0:18N,18L,18L 0:18M,17X,18L 0:18M,17X,18P 0+1:18M,17W,18L 0:18M,17W,18P 0:18M,18L,18Q "
  ++ "0:18M,18L,18P 0+1:18Q,18L,18L 0:17S,17Y,18Q 0:17U,17W,18Q 0:17U,17W,18P 0:17U,17Y,18Q "
  ++ "0:17U,17Y,18P 0:17U,18L,18Q 0:17U,18L,18P 0:17W,18L,18Q 0:17W,17X,18P 0:17W,18L,18P "
  ++ "0:183,17Y,18P 0:185,17X,18Q 0:184,17X,18Q 0:186,17X,18Q 0:18K,17W,18Q 0:18K,18L,18Q "
  ++ "0:18Q,17X,18Q 0:18Q,17W,18Q 0:18Q,18L,18Q 0:18L,18L,18Q 0:18I,18L,18Q 0:18M,17X,18Q "
  ++ "0:18I,18L,17X 0:18K,17X,18L 0:189,18L,18Q 0:18J,18L,18Q 0:18M,17W,17X 0:18L,17Y,18Q "
  ++ "0:18K,17W,18L 0:18J,18L,18L 0:18K,17W,18L 0:18M,17W,17X 0:17W,17X,18Q 0:17X,17W,18Q "
  ++ "0:18L,17W,18Q 0:18H,18L,18Q 0:17S,17X,18Q 0:18J,18L,18L 0:189,17W,18L 0:185,18L,18L "
  ++ "0:183,17Y,18Q 0:18M,17W,18Q 14:185,18K,1CI 0:18I,18K,1CI 0:17R,18K,18K,18N 0:17R,18J,17S,181 "
  ++ "0:18L,17X,18L,17Z 0:185,18K,189,18L 0:181,183,18O,18K 0:189,18K,18Q,18N 0:18O,183,18K,18L "
  ++ "0:185,18K,18P 0:185,18K,18P,W,17R,18K,18K,18N,W,189,18K,18Q,18N,W,18O,183,18K,18L "
  ++ "0:17W,18K,W,17W,18K,17R,18K,18N 0:181,1CC,17R,18K J:_1E5G 0:_14PC 1+1:_1E55 0:_1E5W 0:_1E53 "
  ++ "0+1:_14OX O:_17VH 0:_17VJ 0:_1E50 0:_1E51 0+1:_1E6L 0:_1E4C 0:_1E4B 0+1:_14PX 0+1:_14Q3 "
  ++ "0+1:_14QB 0+1:_14QF 0+3:_14QD 2:_1E5O 0:_1E5N 0+3:W,LH 0:_1E5Q 0:_1E5R 0:_1E5S 0:_1E78 0:_14R4 "
  ++ "2:_1E6X 0:_1E6Z 0:_1E6V 0:_1E7Q 0:_17WK 0+1:_1E7L 0:_1E5C 0:_1E5B 0+1:_14QX 0:_1E7W 0:_1E7U "
  ++ "0+1:_1E7R 0:_1E7Q 0:_1E7C 0:_1E7B 0:_1E7D 1:_1E6K 0+1:_1E85 0:_1E7F 4:W,18R 0:18G,18R 0:W,18S "
  ++ "1:W,18T 1:W,18U 0:18G,18U 0:W,18V 0:18G,18V 0:W,18W 0:18G,18W 0:W,18X 0:18G,18X 0:W,18Y "
  ++ "0:18G,18Y 0+1:_1D27 0+1:_1D28 0+1:_1D29 0+1:_1D2A 0+1:_1D2B 0:_1D2C 0:_1D2D 0+1:_1D2E 0+1:_1D2F "
  ++ "0:_1D2G 0:_1D2H 0+1:_1D2I 0+1:_1D2J 0:_1D2K 0:_1D2L 0+1:_1D2M 0:_1D2N 0:_1D2O 0+1:_1D2P 0:_1D2Q "
  ++ "0:_1D2R 0+1:_1D2S 0:_1D2T 0:_1D2U 0+1:_1D2V 0:_1D2W 0:_1D2X 0+1:_1D2Y 0+1:_1D2Z 0+1:_1D30 "
  ++ "0+1:_1D31 0+1:_1D32 0:_1D33 0:_1D34 0+1:_1D35 0:_1D36 0:_1D37 0+1:_1D38 0:_1D39 0:_1D3A "
  ++ "0+1:_1D3B 0:_1D3C 0:_1D3D 0+1:_1D3E 0:_1D3F 0:_1D3G 0+1:_1D3H 0:_1D3I 0:_1D3J 0+1:_1D3K 0:_1D3L "
  ++ "0:_1D3M 0+1:_1D3N 0:_1D3O 0:_1D3P 0:_1D3Q 0:_1D3K 0:_1D3L 0:_1D3M 0+1:_1D3N 0:_1D3O 0:_1D3P "
  ++ "0+1:_1D3Q 0:_1D3R 0:_1D3S 0+1:_1D3T 0:_1D3U 0:_1D3V 0+1:_1D3W 0:_1D3X 0:_1D3Y 0+1:_1D3Z 0:_1D40 "
  ++ "0:_1D41 0+1:_1D42 0:_1D43 0:_1D44 0+1:_1D45 0+1:_1D46 0+1:_1D47 0:_1D48 0:_1D49 0:_1D4A "
  ++ "0+1:18K,17M 0+1:18K,17N 0+1:18K,17P 0+1:18K,17R 4+V:_1ECG 0+P:_1EBK 0+Z:_1ECG 0+1:_168Q 0:_1EER "
  ++ "0+1:_14YE 0:_14YR 0:_14RU 0:_14S4 0:_14UE 0:_14UD 0:_14UC 0:_14UB 0:_14UA 0:_14SP 0:_14SO "
  ++ "0:_14SN 0:_14TO 0:_14S4 0:_14UN 0:_14UM 0:_14UL 0:_14UK 0+1:_14UJ 0:_14UI 0:_14UH 0:_14UG "
  ++ "0:_14UF 0:_14UE 0:_14UD 0:_14UC 0:_14UB 0:_14UA 0:_14U9 0:_14U8 0:_14U6 0:_14U5 0:_14U4 "
  ++ "0+5:_14U3 0:_14U1 0:_14TZ 0:_14TX 0:_14TV 0+4:_14TT 0:_14TS 0:_14TR 0+5:_14TQ 0:_14TP 0:_14TM "
  ++ "0+1:_14W5 1+1:_1B4X 0:_1B09 0:_1B4Y 0+1:_1B09 0+2:_1B50 0+5:_1B0A 0:_1B4M 0+2:_1B57 0:_1B4J "
  ++ "0+9:_1B58 3+5:_1B35 2+5:_1B37 2+5:_1B39 2+2:_1B3B 3+1:_1EF2 0:_1EEU 0:W,LG 0:_1EF2 0:_1EF4 "
  ++ "0:_183H 1:_178M 0+3:_17X5 0:_174D 0:_1737 SX+13:^14 3S+Z:^14 4C+A:^13 1+E:^13 1+6:^13 1+1:^13 "
  ++ "DN+1:_1FHT 0:_1FVH 0:_1FJF 0:_1FLE 1:_1FJ8 0:_I76 0:_1FJ8 0:_1FJA 0+1:_1FLH 0:_1A7W 0:_1FLI "
  ++ "0:_1FLD 0:_1FJB 0:_1FL9 0:_1FLC 0:_1FLF 0:_1FJT 0:_1FU6 0:_1FJU 0:_1FLC 0:_1FKK 0+1:_1FJJ "
  ++ "0:_1FLB 0:^16JS 0:_IZ3 0:_1FLC 0:^16JQ 0:_1FKI 0:^16JP 0:_1FVU 0+1:_1FL9 0:_1FZO 0:_1FL8 "
  ++ "0:^16JL 0+1:_1FL7 0:_1FL6 0:_1FK3 0:_1FK6 0:_I86 0:_1FK7 0:_1FL3 0:_17B3 1:_1FKZ 0+1:_1FKI "
  ++ "0:_1FKT 0+2:_1FQU 0:^16J5 0:^16JO XX+1E:^1S 4D+L:^W 27U+V:^W GW0+V:^W 1S+O:^R IL9+P:_2IYD "
  ++ "0+9:_2J0G V8:2JX3,2JXH 0:2JX4,2JXH 0:2JX4,2JXH,2JXQ 0:2JX4,2JXH,2JXR 0:2JX4,2JXH,2JXS "
  ++ "0:2JX4,2JXH,2JXT 0:2JX4,2JXH,2JXU 2E:2JZT,2JXH 0:2JZU,2JXH 0:2JZT,2JXH,2JXQ 0:2JZU,2JXH,2JXQ "
  ++ "0:2JZT,2JXH,2JXR 0:2JZU,2JXH,2JXR FZ+P:_2KDB 0+P:_2KE1 0+P:_2KER 0+6:_2KFH 1+H:_2KFH 0+P:_2KG7 "
  ++ "0+P:_2KGX 0:_2KHN 1+1:_2KHN 2:_2KHN 2+1:_2KHN 2+3:_2KHN 1+7:_2KHN 0+3:_2KID 1:_2KID 1+6:_2KID "
  ++ "1+A:_2KID 0+P:_2KJ3 0+P:_2KJT 0+1:_2KKJ 1+3:_2KKJ 2+7:_2KKJ 1+6:_2KKJ 1+P:_2KL9 0+1:_2KLZ "
  ++ "1+3:_2KLZ 1+4:_2KLZ 1:_2KLZ 3+6:_2KLZ 1+P:_2KMP 0+P:_2KNF 0+P:_2KO5 0+P:_2KOV 0+P:_2KPL "
  ++ "0+P:_2KQB 0+P:_2KR1 0+P:_2KRR 0+P:_2KSH 0+P:_2KT7 0+P:_2KTX 0+P:_2KUN 0+P:_2KVD 0:_2KQB 0:_2KJ2 "
  ++ "2+G:_2K8N 0:_2K8X 0+6:_2K8N 0:_2E9M 0+G:_2K9D 0:_2K9C 0+6:_2K9D 0:_2EAH 0:_2K9Z 0:_2K9X 0:_2K9W "
  ++ "0:_2K9L 0:_2K9R 0:_2K9T 0+G:_2KA9 0:_2KAJ 0+6:_2KA9 0:_2EB8 0+G:_2KAZ 0:_2KAY 0+6:_2KAZ 0:_2EC3 "
  ++ "0:_2KBL 0:_2KBJ 0:_2KBI 0:_2KB7 0:_2KBD 0:_2KBF 0+G:_2KBV 0:_2KC5 0+6:_2KBV 0:_2ECU 0+G:_2KCL "
  ++ "0:_2KCK 0+6:_2KCL 0:_2EDP 0:_2KD7 0:_2KD5 0:_2KD4 0:_2KCT 0:_2KCZ 0:_2KD1 0+G:_2KDH 0:_2KDR "
  ++ "0+6:_2KDH 0:_2EEG 0+G:_2KE7 0:_2KE6 0+6:_2KE7 0:_2EFB 0:_2KET 0:_2KER 0:_2KEQ 0:_2KEF 0:_2KEL "
  ++ "0:_2KEN 0+G:_2KF3 0:_2KFD 0+6:_2KF3 0:_2EG2 0+G:_2KFT 0:_2KFS 0+6:_2KFT 0:_2EGX 0:_2KGF 0:_2KGD "
  ++ "0:_2KGC 0:_2KG1 0:_2KG7 0:_2KG9 0:_2KFH 0:_2KFI 2+9:_2L5Q 0+9:_2L60 0+9:_2L6A 0+9:_2L6K "
  ++ "0+9:_2L6U 1M8+8:_2M0W 0+2:_2M0V 0+A:_2M0U 0:_2M0S 0+1:_2M0R 0:_1PZ5 0:_2LWY 0:_2M0M 0:_2M0L "
  ++ "0:_2LWL 0:_2LY8 0:_2LXD 0+8:_2M1T 0+1:_2M1S 0+1:_2M1Q 0:_2M1P 0+5:_2M1O 0+1:_2M1N 0:_2LZQ "
  ++ "0:_2M1E 0:_2M1G 0:_2M17 0:_2LZ4 0:_1Q1N 0:_2LZ0 1OY+X:^Y YM+1:_2OD5 0:_2OD2 0:_2OD0 1:_2OCD "
  ++ "0:_2OD0 0:_2OD6 0:_2OCX 0:_2OCF 0+3:_2OCN 0:_2OD7 0:_2OD2 0:_2OCV 0:_2OD8 0:_2OCW 0:_2ODE "
  ++ "0:_2ODC 0+1:_2ODN 0:_2ODL 0:_2ODK 0:_2ODF 0:_2ODE 0:_2ODD 0:_2OBY 0:_2O9V 0:_2OAL 0:_2OC0 "
  ++ "1:_2OE1 0:_2ODY 1:_2OD9 2:_2OE2 1:_2ODB 0+3:_2ODJ 0:_2OE3 0:_2ODY 0:_2ODR 0:_2OE4 0:_2ODS "
  ++ "1:_2OE8 0+1:_2OEJ 0:_2OEH 1:_2OEB 1:_2OE9 6:_2OEU 4:_2OEY 1:_2OE7 1:_2OEF 1:_2OEF 0:_2OEZ "
  ++ "0:_2OEU 1:_2OF0 0:_2OEO 1:_2OF4 2:_2OFD 1:_2OF7 1:_2OF5 1:_2OBN 1:_2ODS 1:_2OFT 0:_2OFQ 1:_2OF1 "
  ++ "2:_2OFU 0:_2OFL 0:_2OF3 0:_2OFB 1+1:_2OFB 0:_2OFV 0:_2OFQ 0:_2OFJ 0:_2OFW 0:_2OFK 1:_2OG0 "
  ++ "0+1:_2OGB 0:_2OG9 1:_2OG3 0:_2OG2 0:_2OG1 0:_2OEM 1:_2OD9 1+1:_2OGP 0:_2OGM 0:_2OGK 0+1:_2OFX "
  ++ "0:_2OGK 0:_2OGQ 0:_2OGH 0:_2OFZ 1+2:_2OG7 0:_2OGR 0:_2OGM 0:_2OGF 0:_2OGS 0:_2OGG 0:_2OGY "
  ++ "0:_2OGW 0+1:_2OH7 0:_2OH5 0:_2OH4 0:_2OGZ 0:_2OGY 0:_2OGX 5:_2OHL 0:_2OHI 0:_2OHG 1:_2OGT "
  ++ "0:_2OHG 0:_2OHM 0:_2OHD 0:_2OGV 1+2:_2OH3 0:_2OHN 0:_2OHI 0:_2OHB 0:_2OHO 0:_2OHC 0:_2OHU "
  ++ "0:_2OHS 0+1:_2OI3 0:_2OI1 0:_2OI0 0:_2OHV 0:_2OHU 0:_2OHT G5:1C,18 0:1D,18 0:1E,18 0:1F,18 "
  ++ "0:1G,18 0:1H,18 0:1I,18 0:1J,18 0:1K,18 0:1L,18 5:14,2P,15 0:14,2Q,15 0:14,2R,15 0:14,2S,15 "
  ++ "0:14,2T,15 0:14,2U,15 0:14,2V,15 0:14,2W,15 0:14,2X,15 0:14,2Y,15 0:14,2Z,15 0:14,30,15 "
  ++ "0:14,31,15 0:14,32,15 0:14,33,15 0:14,34,15 0:14,35,15 0:14,36,15 0:14,37,15 0:14,38,15 "
  ++ "0:14,39,15 0:14,3A,15 0:14,3B,15 0:14,3C,15 0:14,3D,15 0:14,3E,15 0:9HW,37,9HX 0:_2Q4O 0:_2Q4A "
  ++ "0:2R,2S 0:3B,3E 1+P:_2Q4V 0:2W,3A 0:31,3A 0:37,2S 0:37,37 0:34,34,3A 0:3B,2R Q:31,2R 0:31,2S "
  ++ "0:31,36 Z:2S,2Y 33:9KR,9JF 0:9MB,9MB 0:_2GR1 D:_26YT 0:_28CA 0:_29TY 0:_2GR0 0:_2AVC 0:_28SB "
  ++ "0:_1Z5F 0:_28RY 0:_2AUS 0:_267T 0:_241L 0:_26BM 0:_2A4V 0:_27IP 0:_2AA9 0:_26B3 0:_2A6B 0:_21NJ "
  ++ "0:_239F 0:_1YM2 0:_28TW 0:_29RG 0:_24GI 0:_26XE 0:_26S3 0:_2AZT 0:_2AZL 0:_1XWH 0:_27UU 0:_2AYO "
  ++ "0:_29TN 0:_26UG 0:_1YGW 0:_26ZI 0:_22EP 0:_227T 0:_29T8 0:_24L1 0:_2625 0:_2627 0:_239H 0:_2A4N "
  ++ "0:_29HG 0:_1XPQ 4:9HW,KDO,9HX 0:9HW,FEX,9HX 0:9HW,FIK,9HX 0:9HW,I2X,9HX 0:9HW,M9L,9HX "
  ++ "0:9HW,JF7,9HX 0:9HW,NH3,9HX 0:9HW,GD9,9HX 0:9HW,K0N,9HX 7:_27JT 0:_29UQ 1WE+9:_2SAO 1DS6:_3QO3 "
  ++ "0:_3QO9 0:_3QO1 0:_1CRL 0:_3QG4 0:_3QDZ 0:_3QDN 0:_3QBP 0:_3Q8E 0:_3Q7K 0:_3Q5F 0:_3Q64 0:_3VQM "
  ++ "0:_1BRN 0:_3Q2P 0:_3Q2J 0:_3Q24 0:_3Q1M 0:_1BZQ 0:_3VQ2 0:_3Q25 0:_3Q14 0:_1BYJ 0:_3Q0W 0:_3Q0K "
  ++ "0:_3QKT 0:_3Q0E 0:_3Q06 0:_K71 0:_3PYG 0:_3PY3 0:_3VPC 0:_3PWL 0:_3PWB 0:_3PV4 0:_3PV0 0:_3VNZ "
  ++ "0:_3PSU 0:_3PST 0:_3PS3 0:_3PRI 0+1:_3PR8 0:_3PQS 0:_3PPF 0:_3PP8 0:_3PP0 0:_3POC 0:_3PO3 "
  ++ "0:_3PO2 0:_3PO3 0:_3PO4 0:_1B0O 0:_3JYD 0:_3PM4 0:_3PLK 0:_1AS5 0:_3PLA 0:_3PL5 0:_3PKL 0:_3PGE "
  ++ "0:_3PJ9 0:_3PIU 0:_3PHZ 0:_3PGE 0:_3PE3 0:_3PDE 0:_3PBK 0:_3PB5 0:_3PA9 0:_3PAA 0:_3P9Q 0:_3P99 "
  ++ "0:_3P92 0:_3P8O 0:_3OZ9 0:_3P6U 0:_3OZA 0:_3P4T 0:_3P3V 0:_3PZD 0:_3OMB 0:_3OUC 0:_3OTB 0:_3OSN "
  ++ "0:_3OWA 0:_3ORO 0:_3ORQ 0:_3OOC 0:_18XH 0:_3OMG 0:_3OMC 0:_3OLY 0:_3OLF 0:_3OL8 0:_3OJH 0:_18L4 "
  ++ "0:_18JB 0:_3OFQ 0:_3OEG 0:_3OE5 0:_3OGD 0:_3OCG 0:_3VCP 0:_3VCC 0:_3O81 0:_3O6K 0:_3O6L 0:_17Z8 "
  ++ "0:_3O2Y 0:_3O2E 0:_3O20 0:_3O1P 0:_17Q1 0:_3O1F 0:_3O19 0:_3NDT 0:_3O0J 0:_3V91 0:_3NYV 0:_3NYI "
  ++ "0:_3NW9 0:_3NXP 0:_176F 0:_3NSP 0:_176F 0:_3NRK 0:_3NRO 0:_3NR8 0+1:_3NOG 0:_3V4K 0:_3NNR "
  ++ "0:_3NML 0:_3NM1 0:_3NKU 0:_3V3A 0:_16H2 0:_3V2M 0:_3NIZ 0:_3NIX 0:_3NIV 0:_3NIC 0:_GSD 0:_3NGY "
  ++ "0:_165C 0:_165D 0:_3GK2 0:_3NG2 0:_3NG3 0:_3V0V 0:_1333 0:_TRY 0:_3NEF 0:_3NE7 0:_3V08 0:_3NCY "
  ++ "0:_3NBK 0:_3NBB 0:_3NAE 0:_3N6N 0:_3UXZ 0:_3UYU 0:_3N67 0:_15G0 0:_3N4U 0:_3N1A 0:_3N17 0:_3N16 "
  ++ "0:_3N19 0:_3N00 0:_3MZH 0:_3MYI 0:_3MYX 0:_3MYN 0:_3MXD 0:_3MWU 0:_3MWR 0:_3MW2 0:_3MVS 0:_3MTZ "
  ++ "0:_3MRO 0:_3MQQ 0:_3MNB 0:_14MK 0:_3MNW 0:_3MPQ 0:_3MMR 0:_3MM1 0:_3MJD 0:_14GD 0:_3MHP 0:_3MKB "
  ++ "0:_3ML4 0:_3US4 0:_3MFU 0:_3MFA 0:_3MEG 0:_3MFJ 0:_3UQJ 0:_3M9L 0:_3M8T 0:_13NK 0:_3M5K 0:_3LXW "
  ++ "0:_3M2S 0:_3ULX 0:_3M0U 0:_3UMG 0:_3UNH 0:_3Q68 0:_3Q66 0:_3LXW 0:_3M0P 0:_3GVD 0:_3SVY 0:_3LXD "
  ++ "0:_3LXA 0:_3LX5 0:_3LVH 0:_3LVT 0:_12XM 0:_3UL1 0:_3LR9 0:_3LUJ 0:_3LOV 0:_3LNH 0:_12T2 0:_3LNA "
  ++ "0:_3LQE 0:_3LJM 0:_3UIY 0:_3LIE 0:_3LFQ 0:_3LDS 0:_3L8J 0:_12DL 0:_3L76 0:_3UFQ 0:_3L5A 0:_11ZD "
  ++ "0:_3L3X 0:_3UEC 0:_3L35 0:_3L1X 0+1:_3L17 0:_11M2 0:_17FX 0:_11J3 0:_3KX8 0:_116N 0:_3KU5 "
  ++ "0:_3KTS 0:_3KWN 0:_3KRT 0:_3KQQ 0:_3KP6 0:_3KQP 0:_3KPM 0:_3KP8 0:_3KOW 0:_1148 0:_3KR7 0:_3KK9 "
  ++ "0:_3KIJ 0:_3U8N 0:_3KG0 0:_3KG5 0:_10SC 0:_3KLX 0:_3KBL 0:_10OI 0:_10N7 0:_3K98 0:_3K62 0:_3K6U "
  ++ "0:_3K6Y 0:_3U68 0:_3K5P 0:_3K4B 0:_3K4I 0:_3K31 0:_1C6U 0:_3JYV 0:_103E 0:_3JWI 0:_ZUC 0:_3JSO "
  ++ "0:_3JSC 0:_3JRM 0:_ZDN 0:_3JQC 0:_3JPS 0:_Z5D 0:_YZ7 0:_3JJI 0:_3JJ2 0:_3TZ2 0:_3JIE 0:_3TYS "
  ++ "0:_3TYT 0:_3JDZ 0:_3JDF 0:_3JCV 0:_3JCC 0:_3JAG 0:_3TW8 0:_3J80 0:_Y67 0:_3J7C 0:_Y3P 0:_3J60 "
  ++ "0:_16L6 0:_3J1M 0:_XI2 0:_XHG 0:_XDL 0:_3TQA 0:_3TPZ 0:_3IVG 0:_X8U 0:_X8W 0:_X7U 0:_X75 "
  ++ "0+1:_3IUF 0:_3IUG 0:_3ITA 0:_3TOW 0:_3IRJ 0:_3TOL 0:_3TME 0:_WMO 0:_3IM8 0:_3IKJ 0:_3IIS "
  ++ "0:_3TKE 0:_W8C 0:_3IF1 0:_W56 0:_W40 0:_3IDJ 0:_3IB0 0:_3TIH 0:_3I8P 0:_3I8G 0:_3I8C 0:_VKW "
  ++ "0:_VCM 0:_VCN 0:_3I41 0:_3TCU 0:_V5I 0:_3HY4 0:_3HY2 0:_3TBX 0:_UZP 0:_3HQS 0:_3T8N 0:_3HQ8 "
  ++ "0:_3HQE 0:_3HPM 0:_UED 0:_3HMX 0:_3T64 0:_3HK7 0:_3HIL 0:_3HGR 0:_3T4T 0:_TVU 0:_TV0 0:_3T3V "
  ++ "0:_TR0 0:_3H8C 0:_TO9 0:_3H7N 0:_3H4V 0:_3H4L 0:_TCX 0:_TAX 0:_3H25 0:_T7A 0:_3H1R 0:_134X "
  ++ "0:_3T0S 0:_3H00 0:_3GXS 0:_3SZD 0:_3GW7 0:_3OI9 0:_STC 0:_SSZ 0:_133Q 0:_133I 0:_3GQY 0:_3GQW "
  ++ "0:_3E27 0:_3SWZ 0:_3GN2 0:_3GN9 0:_3GMS 0:_3Q3J 0:_3GMA 0:_3GM9 0:_3GM0 0:_3GKW 0:_S4B 0:_3GKZ "
  ++ "0:_3GJG 0:_3GHJ 0:_3GFI 0:_3GJD 0:_3GF4 0:_3GDZ 0:_3GAW 0:_3GI5 0:_3GEV 0:_3GEU 0:_3GEF 0:_RXQ "
  ++ "0:_RP6 0:_RTD 0:_3SSC 0:_3G6V 0:_3G6U 0:_3G5W 0:_QG1 0:_3G3S 0:_RCX 0:_3SR5 0:_3SR2 0:_R9B "
  ++ "0:_R1B 0:_3SQV 0:_3FXF 0:_3FX4 0:_3FWU 0:_3FWT 0:_3FV2 0:_3FW0 0:_3FSB 0:_3FTK 0:_3FPE 0:_3FRO "
  ++ "0:_3FPU 0:_3FP4 0:_3SO8 0:_3FMN 0:_3FLS 0:_3SND 0:_3FJ7 0:_3FJ5 0:_PY6 0:_3FFZ 0:_3FFT 0:_3SLV "
  ++ "0:_3FF3 0:_3W27 0:_PI5 0:_PD2 0:_3SI7 0:_3SHZ 0:_3F3J 0:_3F1F 0:_3EX3 0:_3ERH 0:_OQ3 0:_3EP5 "
  ++ "0:_3EOK 0:_3EM3 0:_3EJK 0:_O89 0:_1BRP 0:_3EHB 0:_3EHR 0:_3EGC 0:_1BLR 0:_3EA2 0:_3E7B 0:_MXA "
  ++ "0:_MWK 0:_3DXQ 0:_3DV6 0:_3DUB 0:_MNR 0:_3DU3 0:_3DM7 0+1:_3DHT 0:_3DKE 0:_3D9U 0:_3D93 0:_LPV "
  ++ "0:_3CYR 0:_3RYY 0:_3CXL 0:_LFE 0:_3RWS 0:_3CQ8 0:_3O02 0:_3CNM 0:_KOH 0:_KIL 0:_3RT6 0:_3RSZ "
  ++ "0:_3CII 0:_K4X 0:_3RRE 0:_K13 0:_3CHF 0:_3CHG 0:_3CGN 0:_JT7 0:_3CBK 0:_3RO0 0:_3C9N 0:_3C66 "
  ++ "0:_3C5G 0:_3C3T 0:_3RJU 0:_IQH 0:_3BW8 0:_3BNV 0:_3BIN 0:_3RCV 0:_3RC1 0:_3BFS 0:_HMQ 0:_3RBT "
  ++ "0:_HL9 0:_HDX 0:_HAB 0:_3B6I 0:_3R9C 0:_3B4U 0:_3B4Q 0:_3B4K 0:_3B4B 0:_3B45 0:_3B35 0:_GM5"

def idnaDisallowed : Ranges := decodeRanges idnaDisallowedText

def idnaIgnored : Ranges := decodeRanges idnaIgnoredText

def idnaDeviations : Ranges := decodeRanges idnaDeviationText

def idnaMappings : Array (Nat × Nat × String) :=
  (decodeTagged idnaMappingText).map fun ((a, b), v) => (a, b, v)

def mappedText (c : Nat) (rule : String) : List Char :=
  match rule.toList with
  | '^' :: ds => [Char.ofNat (c + number36 (String.ofList ds))]
  | '_' :: ds => [Char.ofNat (c - number36 (String.ofList ds))]
  | _ => (rule.splitOn ",").map fun w => Char.ofNat (number36 w)

def mappingAt (c : Nat) : Option String :=
  let i := lowerBound idnaMappings (c + 1)
  if i = 0 then none
  else match idnaMappings[i - 1]? with
    | some (_, b, rule) => if c ≤ b then some rule else none
    | none => none

def idnaStatus (c : Nat) : IdnaStatus :=
  if Latest.categoryOf c == .unassigned || rangesHold idnaDisallowed c then .disallowed
  else if rangesHold idnaIgnored c then .ignored
  else if rangesHold idnaDeviations c then .deviation
  else match mappingAt c with
    | some rule => .mapped (mappedText c rule)
    | none => .valid

end Unicode

end MonitorWire
