import MonitorWire.Unicode.Table

namespace MonitorWire

namespace Unicode

def combiningText : String :=
  "LC:0 L:6E 1:6G 4:64 1:6G 1:60 5:64 2:5M 4:64 2:5M B:64 5:1 4:64 8:6E 1:6O 1:6E 3:64 3:6E 2:64 "
  ++ "1:0 3:6E 4:64 1:6E 1:6G 2:64 1:6E 1:6H 2:6I 1:6H 2:6I 1:6H D:6E 7N:0 5:6E 7D:0 1:64 4:6E 1:64 "
  ++ "3:6E 1:66 1:64 6:6E 6:64 2:6E 1:64 2:6E 1:66 1:6C 1:6E 1:A 1:B 1:C 1:D 1:E 1:F 1:G 1:H 1:I 2:J "
  ++ "1:K 1:L 1:M 1:0 1:N 1:0 1:O 1:P 1:0 1:6E 1:64 1:0 1:I 20:0 8:6E 1:U 1:V 1:W 1C:0 1:R 1:S 1:T "
  ++ "1:U 1:V 1:W 1:X 1:Y 2:6E 2:64 5:6E 1:64 2:6E 1:64 G:0 1:Z 2T:0 7:6E 2:0 4:6E 1:64 1:6E 2:0 2:6E "
  ++ "1:0 1:64 2:6E 1:64 Z:0 1:10 U:0 1:6E 1:64 2:6E 1:64 2:6E 3:64 1:6E 2:64 1:6E 1:64 3:6E 1:64 "
  ++ "1:6E 1:64 1:6E 1:64 1:6E 1:64 2:6E 4G:0 7:6E 1:64 1:6E 9:0 1:64 O:0 4:6E 1:0 9:6E 1:0 3:6E 1:0 "
  ++ "5:6E 17:0 3:64 1N:0 2:6E 3:64 4:6E 16:0 5:6E 5:64 E:6E 1:0 1:64 2:6E 1:64 2:6E 1:64 3:6E 3:64 "
  ++ "1:R 1:S 1:T 3:6E 1:64 2:6E 2:64 5:6E 1O:0 1:7 G:0 1:9 3:0 1:6E 1:64 2:6E 2V:0 1:7 G:0 1:9 1C:0 "
  ++ "1:6E 1P:0 1:7 G:0 1:9 32:0 1:7 G:0 1:9 32:0 1:7 G:0 1:9 3J:0 1:9 32:0 1:7 G:0 1:9 7:0 1:2C 1:2J "
  ++ "2T:0 1:7 G:0 1:9 31:0 2:9 G:0 1:9 3G:0 1:9 31:0 2:2V 1:9 D:0 4:2Z 30:0 2:3A 1:9 D:0 4:3E 24:0 "
  ++ "2:64 R:0 1:64 1:0 1:64 1:0 1:60 1J:0 1:3L 1:3M 1:0 1:3O 5:0 4:3M 2:0 1:3M 1:0 2:6E 1:9 1:0 2:6E "
  ++ "1Q:0 1:64 34:0 1:7 1:0 2:9 2A:0 1:64 JZ:0 3:6E QC:0 2:9 U:0 1:9 4D:0 1:9 A:0 1:6E 5N:0 1:6C "
  ++ "3Z:0 1:66 1:6E 1:64 63:0 1:6E 1:64 1Z:0 1:9 K:0 8:6E 2:0 1:64 1C:0 5:6E 6:64 2:6E 1:64 1:0 2:64 "
  ++ "2:6E 2:64 5:6E 1:64 I:6E 1:64 2:0 6:6E 1:64 4:6E 1:6I 20:0 1:7 F:0 1:9 12:0 1:6E 1:64 7:6E 1I:0 "
  ++ "2:9 1M:0 1:7 B:0 2:9 1V:0 1:7 48:0 3:6E 1:0 1:1 5:64 2:6E 4:64 1:6E 1:0 7:1 4:0 1:64 6:0 1:6E "
  ++ "3:0 2:6E 5I:0 2:6E 1:64 7:6E 1:64 2:6E 1:6I 1:5Y 1:64 1:5M 11:6E 1:6G 2:6C 1:64 1:62 1:6E 1:6H "
  ++ "1:64 1:6E 1:64 K0:0 2:6E 2:1 4:6E 3:1 2:6E 4:0 1:6E 3:0 2:1 1:6E 1:64 1:6E 2:1 4:64 1:6E 2DA:0 "
  ++ "3:6E 3X:0 1:9 2O:0 W:6E FE:0 1:62 1:6C 1:6G 1:66 2:68 2X:0 2:8 N9W:0 1:6E 4:0 A:6E W:0 2:6E "
  ++ "28:0 2:6E 7O:0 1:9 11:0 1:9 47:0 1:9 R:0 I:6E 1L:0 3:64 11:0 1:9 2N:0 1:7 C:0 1:9 6N:0 1:6E 1:0 "
  ++ "2:6E 1:64 2:0 2:6E 5:0 2:6E 1:0 1:6E 1G:0 1:9 6U:0 1:9 FN4:0 1:Q LD:0 7:6E 7:64 2:6E R1:0 1:64 "
  ++ "6A:0 1:64 45:0 5:6E 1AQ:0 1:64 1:0 1:6E 14:0 1:6E 1:1 1:64 4:0 1:9 4L:0 1:6E 1:64 FX:0 4:6E "
  ++ "1T:0 5:6E 8T:0 2:6E 25:0 2:64 1:0 3:64 1Y:0 2:64 3:6E 1:64 1:6E 4:64 1D:0 1:6E 1:64 1:6E 1:64 "
  ++ "5C:0 1:9 15:0 1:9 E:0 1:9 1L:0 1:9 1:7 1X:0 3:6E 1C:0 2:9 1Q:0 1:7 24:0 1:9 9:0 1:7 2Y:0 1:9 "
  ++ "1:7 4Y:0 1:7 1:9 28:0 2:7 G:0 1:9 O:0 7:6E 3:0 5:6E 2H:0 3:9 35:0 1:9 3:0 1:7 N:0 1:6E 2R:0 1:9 "
  ++ "1:7 6Z:0 1:9 1:7 3I:0 1:9 3A:0 1:9 1:7 37:0 1:9 7H:0 1:9 1:7 76:0 2:9 4:0 1:7 4C:0 1:9 2B:0 1:9 "
  ++ "I:0 1:9 29:0 1:9 BP:0 1:9 76:0 1:7 1:0 2:9 29:0 1:9 BT:0 2:9 D0S:0 1:9 1XC:0 5:1 1N:0 7:6E XL:0 "
  ++ "2:6 F58:0 1:1 43Q:0 2:60 3:1 3:0 1:6A 5:60 8:0 8:64 2:0 5:6E 2:64 U:0 4:6E 44:0 3:6E 2PN:0 7:6E "
  ++ "1:0 H:6E 2:0 7:6E 1:0 2:6E 1:0 5:6E 2S:0 1:6E 4G:0 7:6E AF:0 1:6E 1P:0 4:6E E4:0 2:6G 1:64 1:6E "
  ++ "72:0 1:6E 1:64 6R:0 1:6E 2:0 1:6E 7:0 2:6E 5:0 1:6E D6:0 7:64 31:0 6:6E 1:7 L705:0"

def decompositionText : String :=
  "5C:1T,LC 0:1T,LD 0:1T,LE 0:1T,LF 0:1T,LK 0:1T,LM 1:1V,MF 0:1X,LC 0:1X,LD 0:1X,LE 0:1X,LK "
  ++ "0:21,LC 0:21,LD 0:21,LE 0:21,LK 1:26,LF 0:27,LC 0:27,LD 0:27,LE 0:27,LF 0:27,LK 2:2D,LC 0:2D,LD "
  ++ "0:2D,LE 0:2D,LK 0:2H,LD 2:2P,LC 0:2P,LD 0:2P,LE 0:2P,LF 0:2P,LK 0:2P,LM 1:2R,MF 0:2T,LC 0:2T,LD "
  ++ "0:2T,LE 0:2T,LK 0:2X,LC 0:2X,LD 0:2X,LE 0:2X,LK 1:32,LF 0:33,LC 0:33,LD 0:33,LE 0:33,LF 0:33,LK "
  ++ "2:39,LC 0:39,LD 0:39,LE 0:39,LK 0:3D,LD 1:3D,LK 0:1T,LG 0:2P,LG 0:1T,LI 0:2P,LI 0:1T,MG 0:2P,MG "
  ++ "0:1V,LD 0:2R,LD 0:1V,LE 0:2R,LE 0:1V,LJ 0:2R,LJ 0:1V,LO 0:2R,LO 0:1W,LO 0:2S,LO 2:1X,LG 0:2T,LG "
  ++ "0:1X,LI 0:2T,LI 0:1X,LJ 0:2T,LJ 0:1X,MG 0:2T,MG 0:1X,LO 0:2T,LO 0:1Z,LE 0:2V,LE 0:1Z,LI 0:2V,LI "
  ++ "0:1Z,LJ 0:2V,LJ 0:1Z,MF 0:2V,MF 0:20,LE 0:2W,LE 2:21,LF 0:2X,LF 0:21,LG 0:2X,LG 0:21,LI 0:2X,LI "
  ++ "0:21,MG 0:2X,MG 0:21,LJ 3:22,LE 0:2Y,LE 0:23,MF 0:2Z,MF 1:24,LD 0:30,LD 0:24,MF 0:30,MF 0:24,LO "
  ++ "0:30,LO 4:26,LD 0:32,LD 0:26,MF 0:32,MF 0:26,LO 0:32,LO 3:27,LG 0:33,LG 0:27,LI 0:33,LI 0:27,LN "
  ++ "0:33,LN 2:2A,LD 0:36,LD 0:2A,MF 0:36,MF 0:2A,LO 0:36,LO 0:2B,LD 0:37,LD 0:2B,LE 0:37,LE 0:2B,MF "
  ++ "0:37,MF 0:2B,LO 0:37,LO 0:2C,MF 0:38,MF 0:2C,LO 0:38,LO 2:2D,LF 0:39,LF 0:2D,LG 0:39,LG 0:2D,LI "
  ++ "0:39,LI 0:2D,LM 0:39,LM 0:2D,LN 0:39,LN 0:2D,MG 0:39,MG 0:2F,LE 0:3B,LE 0:2H,LE 0:3D,LE 0:2H,LK "
  ++ "0:2I,LD 0:3E,LD 0:2I,LJ 0:3E,LJ 0:2I,LO 0:3E,LO X:27,M3 0:33,M3 D:2D,M3 0:39,M3 S:1T,LO 0:2P,LO "
  ++ "0:21,LO 0:2X,LO 0:27,LO 0:33,LO 0:2D,LO 0:39,LO 0:64,LG 0:70,LG 0:64,LD 0:70,LD 0:64,LO 0:70,LO "
  ++ "0:64,LC 0:70,LC 1:5G,LG 0:6C,LG 0:FA,LG 0:FB,LG 0:5I,LG 0:6E,LG 2:1Z,LO 0:2V,LO 0:23,LO 0:2Z,LO "
  ++ "0:27,MG 0:33,MG 0:DM,LG 0:DN,LG 0:C7,LO 0:IA,LO 0:2Y,LO 3:1Z,LD 0:2V,LD 2:26,LC 0:32,LC 0:5H,LD "
  ++ "0:6D,LD 0:5I,LD 0:6E,LD 0:60,LD 0:6W,LD 0:1T,LR 0:2P,LR 0:1T,LT 0:2P,LT 0:1X,LR 0:2T,LR 0:1X,LT "
  ++ "0:2T,LT 0:21,LR 0:2X,LR 0:21,LT 0:2X,LT 0:27,LR 0:33,LR 0:27,LT 0:33,LT 0:2A,LR 0:36,LR 0:2A,LT "
  ++ "0:36,LT 0:2D,LR 0:39,LR 0:2D,LT 0:39,LT 0:2B,ME 0:37,ME 0:2C,ME 0:38,ME 2:20,LO 0:2W,LO 6:1T,LJ "
  ++ "0:2P,LJ 0:1X,MF 0:2T,MF 0:5Y,LG 0:6U,LG 0:5X,LG 0:6T,LG 0:27,LJ 0:33,LJ 0:FI,LG 0:FJ,LG 0:2H,LG "
  ++ "0:3D,LG 7G:LC 0:LD 1:LV 0:LK,LD 1B:JD 9:1N 6:4O,LD 0:PD,LD 0:53 0:PH,LD 0:PJ,LD 0:PL,LD 1:PR,LD "
  ++ "1:PX,LD 0:Q1,LD 0:QY,LD P:PL,LK 0:PX,LK 0:Q9,LD 0:QD,LD 0:QF,LD 0:QH,LD 0:QZ,LD P:QH,LK 0:QT,LK "
  ++ "0:QN,LD 0:QT,LD 0:QX,LD 4:R6,LD 0:R6,LK 17:T1,LC 0:T1,LK 1:SZ,LD 3:SM,LK 4:T6,LD 0:T4,LC "
  ++ "0:TF,LI A:T4,LI V:U0,LI M:TX,LC 0:TX,LK 1:TV,LD 3:UU,LK 4:U2,LD 0:U0,LC 0:UB,LI N:VO,LR 0:VP,LR "
  ++ "21:T2,LI 0:TY,LI D:SW,LI 0:TS,LI 0:SW,LK 0:TS,LK 2:T1,LI 0:TX,LI 2:YG,LK 0:YH,LK 0:T2,LK "
  ++ "0:TY,LK 0:T3,LK 0:TZ,LK 2:T4,LG 0:U0,LG 0:T4,LK 0:U0,LK 0:TA,LK 0:U6,LK 2:YW,LK 0:YX,LK 0:TP,LK "
  ++ "0:UL,LK 0:TF,LG 0:UB,LG 0:TF,LK 0:UB,LK 0:TF,LN 0:UB,LN 0:TJ,LK 0:UF,LK 2:TN,LK 0:UJ,LK "
  ++ "88:17R,18Z 0:17R,190 0:18O,190 0:17R,191 0:18Q,190 49:1CL,190 1:1C1,190 G:1CI,190 GL:1T4,1TO "
  ++ "7:1TC,1TO 2:1TF,1TO Z:1SL,1TO 0:1SM,1TO 0:1SN,1TO 0:1SS,1TO 0:1SX,1TO 0:1SY,1TO 0:1T7,1TO "
  ++ "0:1TB,1TO 2Z:1XJ,1XA 0:1XJ,1XZ F:1WH,1X8 0:1WI,1X8 1:1WV,1X8 2B:20I,20S 2:20O,20S Y:1ZQ,20S "
  ++ "0:1ZR,20S 0:1ZW,20S 2:20B,20S 6H:287,28M 2:287,27Y 0:287,28N F:275,27W 0:276,27W 1I:2AA,2C7 "
  ++ "1H:2BQ,2BI 0:2BR,2BI 0:2BQ,2C7 3F:2FA,2FQ 3B:2IN,2J9 6:2IU,2J9 0:2IU,2JA 1:2IU,2IQ 0:2IY,2J9 "
  ++ "3I:2ME,2M6 0:2MF,2M6 0:2ME,2MV 3X:2QH,2Q2 1:2QH,2Q7 0:2QK,2Q2 0:2QH,2QN 9W:30I,33R 9:30S,33R "
  ++ "4:30X,33R 4:312,33R 4:317,33R C:30G,33P 9:31T,31U 1:31T,31W 0:33M,328 1:33N,328 8:31T,328 "
  ++ "H:32Q,33R 9:330,33R 4:335,33R 4:33A,33R 4:33F,33R C:32O,33P 30:36T,372 25B:5C5,5DH 1:5C7,5DH "
  ++ "1:5C9,5DH 1:5CB,5DH 1:5CD,5DH 3:5CH,5DH 14:5DM,5DH 1:5DO,5DH 2:5DQ,5DH 0:5DR,5DH 1:5DU,5DH "
  ++ "JG:1T,MD 0:2P,MD 0:1U,LJ 0:2Q,LJ 0:1U,MB 0:2Q,MB 0:1U,MP 0:2Q,MP 0:5J,LD 0:6F,LD 0:1W,LJ "
  ++ "0:2S,LJ 0:1W,MB 0:2S,MB 0:1W,MP 0:2S,MP 0:1W,MF 0:2S,MF 0:1W,ML 0:2S,ML 0:7M,LC 0:7N,LC 0:7M,LD "
  ++ "0:7N,LD 0:1X,ML 0:2T,ML 0:1X,MO 0:2T,MO 0:FC,LI 0:FD,LI 0:1Y,LJ 0:2U,LJ 0:1Z,LG 0:2V,LG 0:20,LJ "
  ++ "0:2W,LJ 0:20,MB 0:2W,MB 0:20,LK 0:2W,LK 0:20,MF 0:2W,MF 0:20,MM 0:2W,MM 0:21,MO 0:2X,MO 0:5R,LD "
  ++ "0:6N,LD 0:23,LD 0:2Z,LD 0:23,MB 0:2Z,MB 0:23,MP 0:2Z,MP 0:24,MB 0:30,MB 0:5YU,LG 0:5YV,LG "
  ++ "0:24,MP 0:30,MP 0:24,ML 0:30,ML 0:25,LD 0:31,LD 0:25,LJ 0:31,LJ 0:25,MB 0:31,MB 0:26,LJ 0:32,LJ "
  ++ "0:26,MB 0:32,MB 0:26,MP 0:32,MP 0:26,ML 0:32,ML 0:5X,LD 0:6T,LD 0:5X,LK 0:6T,LK 0:98,LC 0:99,LC "
  ++ "0:98,LD 0:99,LD 0:28,LD 0:34,LD 0:28,LJ 0:34,LJ 0:2A,LJ 0:36,LJ 0:2A,MB 0:36,MB 0:5ZU,LG "
  ++ "0:5ZV,LG 0:2A,MP 0:36,MP 0:2B,LJ 0:37,LJ 0:2B,MB 0:37,MB 0:9M,LJ 0:9N,LJ 0:9S,LJ 0:9T,LJ "
  ++ "0:602,LJ 0:603,LJ 0:2C,LJ 0:38,LJ 0:2C,MB 0:38,MB 0:2C,MP 0:38,MP 0:2C,ML 0:38,ML 0:2D,MC "
  ++ "0:39,MC 0:2D,MO 0:39,MO 0:2D,ML 0:39,ML 0:A0,LD 0:A1,LD 0:A2,LK 0:A3,LK 0:2E,LF 0:3A,LF 0:2E,MB "
  ++ "0:3A,MB 0:2F,LC 0:3B,LC 0:2F,LD 0:3B,LD 0:2F,LK 0:3B,LK 0:2F,LJ 0:3B,LJ 0:2F,MB 0:3B,MB 0:2G,LJ "
  ++ "0:3C,LJ 0:2G,LK 0:3C,LK 0:2H,LJ 0:3D,LJ 0:2I,LE 0:3E,LE 0:2I,MB 0:3E,MB 0:2I,MP 0:3E,MP 0:2W,MP "
  ++ "0:38,LK 0:3B,LM 0:3D,LM 1:AN,LJ 4:1T,MB 0:2P,MB 0:1T,LL 0:2P,LL 0:5E,LD 0:6A,LD 0:5E,LC 0:6A,LC "
  ++ "0:5E,LL 0:6A,LL 0:5E,LF 0:6A,LF 0:61S,LE 0:61T,LE 0:76,LD 0:77,LD 0:76,LC 0:77,LC 0:76,LL "
  ++ "0:77,LL 0:76,LF 0:77,LF 0:61S,LI 0:61T,LI 0:1X,MB 0:2T,MB 0:1X,LL 0:2T,LL 0:1X,LF 0:2T,LF "
  ++ "0:5M,LD 0:6I,LD 0:5M,LC 0:6I,LC 0:5M,LL 0:6I,LL 0:5M,LF 0:6I,LF 0:62G,LE 0:62H,LE 0:21,LL "
  ++ "0:2X,LL 0:21,MB 0:2X,MB 0:27,MB 0:33,MB 0:27,LL 0:33,LL 0:5W,LD 0:6S,LD 0:5W,LC 0:6S,LC 0:5W,LL "
  ++ "0:6S,LL 0:5W,LF 0:6S,LF 0:630,LE 0:631,LE 0:BK,LD 0:BL,LD 0:BK,LC 0:BL,LC 0:BK,LL 0:BL,LL "
  ++ "0:BK,LF 0:BL,LF 0:BK,MB 0:BL,MB 0:2D,MB 0:39,MB 0:2D,LL 0:39,LL 0:BZ,LD 0:C0,LD 0:BZ,LC 0:C0,LC "
  ++ "0:BZ,LL 0:C0,LL 0:BZ,LF 0:C0,LF 0:BZ,MB 0:C0,MB 0:2H,LC 0:3D,LC 0:2H,MB 0:3D,MB 0:2H,LL 0:3D,LL "
  ++ "0:2H,LF 0:3D,LF 6:Q9,LV 0:Q9,LW 0:64G,LC 0:64H,LC 0:64G,LD 0:64H,LD 0:64G,N6 0:64H,N6 0:PD,LV "
  ++ "0:PD,LW 0:64O,LC 0:64P,LC 0:64O,LD 0:64P,LD 0:64O,N6 0:64P,N6 0:QD,LV 0:QD,LW 0:64W,LC 0:64X,LC "
  ++ "0:64W,LD 0:64X,LD 2:PH,LV 0:PH,LW 0:654,LC 0:655,LC 0:654,LD 0:655,LD 2:QF,LV 0:QF,LW 0:65C,LC "
  ++ "0:65D,LC 0:65C,LD 0:65D,LD 0:65C,N6 0:65D,N6 0:PJ,LV 0:PJ,LW 0:65K,LC 0:65L,LC 0:65K,LD "
  ++ "0:65L,LD 0:65K,N6 0:65L,N6 0:QH,LV 0:QH,LW 0:65S,LC 0:65T,LC 0:65S,LD 0:65T,LD 0:65S,N6 "
  ++ "0:65T,N6 0:PL,LV 0:PL,LW 0:660,LC 0:661,LC 0:660,LD 0:661,LD 0:660,N6 0:661,N6 0:QN,LV 0:QN,LW "
  ++ "0:668,LC 0:669,LC 0:668,LD 0:669,LD 2:PR,LV 0:PR,LW 0:66G,LC 0:66H,LC 0:66G,LD 0:66H,LD 2:QT,LV "
  ++ "0:QT,LW 0:66O,LC 0:66P,LC 0:66O,LD 0:66P,LD 0:66O,N6 0:66P,N6 1:PX,LW 1:66X,LC 1:66X,LD "
  ++ "1:66X,N6 0:QX,LV 0:QX,LW 0:674,LC 0:675,LC 0:674,LD 0:675,LD 0:674,N6 0:675,N6 0:Q1,LV 0:Q1,LW "
  ++ "0:67C,LC 0:67D,LC 0:67C,LD 0:67D,LD 0:67C,N6 0:67D,N6 0:Q9,LC 0:Q4 0:QD,LC 0:Q5 0:QF,LC 0:Q6 "
  ++ "0:QH,LC 0:Q7 0:QN,LC 0:R0 0:QT,LC 0:R1 0:QX,LC 0:R2 2:64G,N9 0:64H,N9 0:64I,N9 0:64J,N9 "
  ++ "0:64K,N9 0:64L,N9 0:64M,N9 0:64N,N9 0:64O,N9 0:64P,N9 0:64Q,N9 0:64R,N9 0:64S,N9 0:64T,N9 "
  ++ "0:64U,N9 0:64V,N9 0:65C,N9 0:65D,N9 0:65E,N9 0:65F,N9 0:65G,N9 0:65H,N9 0:65I,N9 0:65J,N9 "
  ++ "0:65K,N9 0:65L,N9 0:65M,N9 0:65N,N9 0:65O,N9 0:65P,N9 0:65Q,N9 0:65R,N9 0:674,N9 0:675,N9 "
  ++ "0:676,N9 0:677,N9 0:678,N9 0:679,N9 0:67A,N9 0:67B,N9 0:67C,N9 0:67D,N9 0:67E,N9 0:67F,N9 "
  ++ "0:67G,N9 0:67H,N9 0:67I,N9 0:67J,N9 0:Q9,LI 0:Q9,LG 0:67K,N9 0:Q9,N9 0:Q4,N9 1:Q9,N6 0:69I,N9 "
  ++ "0:PD,LI 0:PD,LG 0:PD,LC 0:P2 0:PD,N9 1:QH 2:4O,N6 0:67O,N9 0:QF,N9 0:Q6,N9 1:QF,N6 0:69Y,N9 "
  ++ "0:PH,LC 0:P4 0:PJ,LC 0:P5 0:PJ,N9 0:69R,LC 0:69R,LD 0:69R,N6 0:QH,LI 0:QH,LG 0:QY,LC 0:PC "
  ++ "2:QH,N6 0:QY,N6 0:PL,LI 0:PL,LG 0:PL,LC 0:P6 1:6BI,LC 0:6BI,LD 0:6BI,N6 0:QT,LI 0:QT,LG 0:QZ,LC "
  ++ "0:Q8 0:QP,LV 0:QP,LW 0:QT,N6 0:QZ,N6 0:PX,LI 0:PX,LG 0:PX,LC 0:PA 0:PT,LW 0:4O,LC 0:P1 0:2O "
  ++ "2:67W,N9 0:QX,N9 0:R2,N9 1:QX,N6 0:6BA,N9 0:PR,LC 0:P8 0:Q1,LC 0:PB 0:Q1,N9 0:50 2:6BM 0:6BN "
  ++ "84:Q1 3:23 0:5H 32:6MO,MW 0:6MQ,MW I:6MS,MW U:6OG,MW 0:6OK,MW 0:6OI,MW 1G:6PV,MW 4:6Q0,MW "
  ++ "2:6Q3,MW N:6QR,MW 1:6QT,MW Q:6RG,MW 2:6RN,MW 2:6RP,MW 1:6RS,MW M:1P,MW 1:6SH,MW A:6RX,MW "
  ++ "0:1O,MW 0:1Q,MW 0:6SK,MW 0:6SL,MW 2:6SY,MW 0:6SZ,MW 2:6T2,MW 0:6T3,MW 6:6T6,MW 0:6T7,MW "
  ++ "2:6TE,MW 0:6TF,MW 2:6TI,MW 0:6TJ,MW Y:6UA,MW 0:6UG,MW 0:6UH,MW 0:6UJ,MW 1C:6T8,MW 0:6T9,MW "
  ++ "0:6TT,MW 0:6TU,MW 6:6UQ,MW 0:6UR,MW 0:6US,MW 0:6UT,MW 1N:9HK 0:9HL 1IP:8GT,MW 12N:9JF,9LL "
  ++ "1:9JH,9LL 1:9JJ,9LL 1:9JL,9LL 1:9JN,9LL 1:9JP,9LL 1:9JR,9LL 1:9JT,9LL 1:9JV,9LL 1:9JX,9LL "
  ++ "1:9JZ,9LL 1:9K1,9LL 2:9K4,9LL 1:9K6,9LL 1:9K8,9LL 6:9KF,9LL 0:9KF,9LM 1:9KI,9LL 0:9KI,9LM "
  ++ "1:9KL,9LL 0:9KL,9LM 1:9KO,9LL 0:9KO,9LM 1:9KR,9LL 0:9KR,9LM M:9JA,9LL 9:9LP,9LL D:9M3,9LL "
  ++ "1:9M5,9LL 1:9M7,9LL 1:9M9,9LL 1:9MB,9LL 1:9MD,9LL 1:9MF,9LL 1:9MH,9LL 1:9MJ,9LL 1:9ML,9LL "
  ++ "1:9MN,9LL 1:9MP,9LL 2:9MS,9LL 1:9MU,9LL 1:9MW,9LL 6:9N3,9LL 0:9N3,9LM 1:9N6,9LL 0:9N6,9LM "
  ++ "1:9N9,9LL 0:9N9,9LM 1:9NC,9LL 0:9NC,9LM 1:9NF,9LL 0:9NF,9LM M:9LY,9LL 2:9NZ,9LL 0:9O0,9LL "
  ++ "0:9O1,9LL 0:9O2,9LL 3:9OD,9LL 13I9:RPK 0:KC4 0:S7E 0:RT4 0:LW1 0:FG2 0:GKL 0:VJ0 0:VJ0 0:HN5 "
  ++ "0:SSX 0:GW7 0:HMW 0:JCM 0:NE1 0:P6T 0:QIN 0:QT6 0:R20 0:SJZ 0:KXU 0:LJV 0:MAH 0:MVY 0:Q4D 0:SQ2 "
  ++ "0:UEP 0:FIA 0:GHH 0:L50 0:MJF 0:QI5 0:V8E 0:IFK 0:M3V 0:QFH 0:R50 0:JIH 0:PNC 0:QVZ 0:IQ2 0:KD3 "
  ++ "0:LM2 0:MPO 0:SLQ 0:FPI 0:G53 0:GDA 0:JWK 0:L3N 0:MJ4 0:NHJ 0:PA9 0:QH2 0:QJG 0:S1B 0:TV6 0:UPB "
  ++ "0:V7E 0:NT8 0:NZZ 0:OTC 0:Q15 0:T1G 0:VB3 0:RFA 0:HJZ 0:IRO 0:OKG 0:PDQ 0:MLE 0:NUY 0:RSY 0:TTJ "
  ++ "0:HJS 0:I8Y 0:KYB 0:LP6 0:LXR 0:OQ7 0:OXJ 0:TOR 0:GCY 0:PE3 0:G64 0:G5O 0:O4C 0:OU6 0:Q29 0:TPX "
  ++ "0:RK0 0:JIN 0:KXU 0:RGE 0:FG9 0:I5J 0:IZ6 0:MTJ 0:N74 0:GEV 0:NWB 0:FR3 0:IW9 0:FF1 0:LHO 0:K1K "
  ++ "0:OPU 0:GJN 0:HGE 0:NI9 0:Q4P 0:RE2 0:LA2 0:SDS 0:LFS 0:JJY 0:PUT 0:JOG 0:N6T 0:FJI 0:G2X 0:G5L "
  ++ "0:KN5 0:OO7 0:PRJ 0:RF6 0:SSV 0:GDX 0:GN6 0:HO3 0:IR0 0:K3P 0:M4E 0:NXM 0:TKD 0:UI2 0:VBR 0:VDA "
  ++ "0:GBF 0:KAU 0:L87 0:SBM 0:INO 0:J9S 0:JCW 0:JVE 0:LYB 0:MDL 0:N0P 0:O22 0:OVO 0:PDB 0:S9Y 0:Q9A "
  ++ "0:SGZ 0:T3E 0:G7R 0:GBN 0:GQL 0:MA0 0:R0I 0:RE2 0:IQ1 0:IYD 0:JNF 0:L9Q 0:OJI 0:MT1 0:FL0 0:H6H "
  ++ "0:I5J 0:III 0:IZG 0:MUQ 0:MZT 0:P7E 0:PC6 0:SVO 0:TTI 0:TVS 0:U1K 0:FPN 0:O1A 0:SS4 0:TRS 0:J4X "
  ++ "0:FIE 0:FYY 0:I5Q 0:I7Z 0:K2H 0:KXU 0:MHA 0:NCY 0:Q9O 0:SJG 0:VIL 0:K94 0:TNY 0:GAX 0:KFV 0:KJ7 "
  ++ "0:LKX 0:LUK 0:MX5 0:N6H 0:NSB 0:OPC 0:U3I 0:G31 0:JE6 0:TQ0 0:FU3 0:IE1 0:LPM 0:SA2 0:IVF 0:J7O "
  ++ "0:KK7 0:MTJ 0:TQE 0:G89 0:GLR 0:I91 0:K5V 0:KEM 0:KO8 0:LID 0:MX2 0:NAA 0:P6H 0:R0V 0:R1D 0:SSS "
  ++ "0:TSY 0:GFZ 0:LVE 0:GM5 0:MHC 0:N14 0:QGQ 0:TR7 0:UVR 0:VBZ 0:KGN 0:LOR 0:PNS 0:O97 0:OBK 0:OLU "
  ++ "0:MO0 0:M8P 0:RIW 0:FK0 0:PX2 0:G8Q 0:G7B 0:IP2 0:JIR 0:ONQ 0:I2T 0:LJY 0:KAC 0:SAJ 0:QX8 0:TOT "
  ++ "0:R63 0:IQB 0:G1S 0:GXS 2:HGA 1:K8K 2:G66 0:MQY 0:NGQ 0:NY4 0:NZ2 0:NZ9 0:O0F 0:TW6 0:ON2 0:P8D "
  ++ "1:QHE 1:RG8 2:SHK 0:SN1 3:U7J 0:U7W 0:U94 0:V5G 0:SM6 0:TRR 0:FQM 0:FZB 0:G25 0:GCP 0:GDG 0:GGH "
  ++ "0:GWT 0:GZQ 0:H2G 0:HFK 0:HIG 0:I90 0:I9A 0:J2S 0:J8O 0:J9Q 0:JCI 0:K0F 0:K4I 0:K9D 0:KN9 0:LMF "
  ++ "0:LQY 0:LYA 0:MEM 0:MJV 0:MXU 0:NTD 0:NY6 0:NYH 0:NYG 0:NYO 0:NYU 0:NZ1 0:O0D 0:O0E 0:O5C 0:O75 "
  ++ "0:OG0 0:OVO 0:OW9 0:OXT 0:P6A 0:PAD 0:PNX 0:PRT 0:PRT 0:Q53 0:R2O 0:R6E 0:RGH 0:RI1 0:RTF 0:RUW "
  ++ "0:SDY 0:SHK 0:TSZ 0:U0V 0:U2J 0:J1X 0:36CU 0:PP4 2:FFQ 0:G51 0:G2W 0:FPC 0:G1X 0:G3K 0:GCN "
  ++ "0:GE2 0:GWT 0:GUT 0:GWP 0:GYQ 0:HGA 0:HIR 0:HMS 0:HN8 0:HUQ 0:I08 0:IQA 0:IQH 0:IUH 0:IWD 0:J4O "
  ++ "0:J7Y 0:J60 0:J9Q 0:J8G 0:JCI 0:JEC 0:JPG 0:JRW 0:JTE 0:K0M 0:K8K 0:KD3 0:KD7 0:KEU 0:L89 0:LA2 "
  ++ "0:LKX 0:LWB 0:LVV 0:LYA 0:M5A 0:MEM 0:NMV 0:MK5 0:MNJ 0:MQY 0:N01 0:N46 0:N5N 0:NBX 0:NBZ 0:NGQ "
  ++ "0:NH7 0:NHW 0:NKA 0:NK0 0:NV0 0:O8H 0:OG0 0:OL7 0:ORF 0:OVO 0:P4U 0:PAD 0:PXU 0:Q27 0:QRD 0:R41 "
  ++ "0:R5Y 0:R6E 0:REN 0:RG8 0:REZ 0:RGH 0:RGE 0:RFX 0:RI1 0:RKA 0:RUW 0:SAG 0:SJ6 0:SRD 0:SXI 0:TQ4 "
  ++ "0:TSZ 0:TW6 0:TZV 0:U0V 0:U17 0:U2J 0:UMQ 0:VJ0 0:313E 0:3138 0:33DH 0:BRX 0:CNS 0:COP 0:39E1 "
  ++ "0:3BGW 0:3I6R 0:VGJ 0:VIM 1V:15L,14K 1:16A,14N A:161,14X 0:161,14Y 0:1DMX,14X 0:1DMX,14Y "
  ++ "0:15C,14N 0:15C,14O 0:15C,14S 0:15D,14S 0:15E,14S 0:15F,14S 0:15G,14S 0:15H,14S 0:15I,14S "
  ++ "1:15K,14S 0:15L,14S 0:15M,14S 0:15N,14S 0:15O,14S 1:15Q,14S 1:15S,14S 0:15T,14S 1:15V,14S "
  ++ "0:15W,14S 1:15Y,14S 0:15Z,14S 0:160,14S 0:161,14S 0:162,14S 0:15H,14P 0:15D,14V 0:15N,14V "
  ++ "0:15W,14V 22I:1FPU,LJ Q:1FQ2,LJ 245:1HUH,1HVE 1:1HUJ,1HVE E:1HUT,1HVE 3M:1HYP,1HYF 0:1HYQ,1HYF "
  ++ "EZ:1IDJ,1IDA 0:1IDJ,1IDZ 1I:1IF6,1IH5 1:1IF8,1IGR 8:1IFF,1IGY 2:1IFK,1IH5 1F:1IGY,1IGY "
  ++ "1:1IGY,1IGO 0:1IGY,1IH5 6Q:1INT,1INU 0:1INT,1INK 1:1INT,1INX 6Z:1IUW,1IUN 0:1IUX,1IUN "
  ++ "OS:1JJP,1JJK E7C:1XR2,1XR2 0:1XR2,1XRD 0:1XR2,1XR3 0:1XRD,1XR3 0:1XR2,1XR4 0:1XR5,1XR3 "
  ++ "0:1XR6,1XR3 0:1XR5,1XR4 2F3:206F,206F 0:206B,206F 0:206H,206F JQR:2JX3,2JXH 0:2JX4,2JXH "
  ++ "0:2JXB,2JXQ 0:2JXB,2JXR 0:2JXB,2JXS 0:2JXB,2JXT 0:2JXB,2JXU 2E:2JZT,2JXH 0:2JZU,2JXH "
  ++ "0:2JZV,2JXQ 0:2JZW,2JXQ 0:2JZV,2JXR 0:2JZW,2JXR 1M4F:FGD 0:FG8 0:FGH 0:2TCY 0:FOG 0:FQM 0:FQZ "
  ++ "0:FSY 0:FWA 0:FX5 0:FZB 0:FYN 0:AE6 0:2UD6 0:G25 0:G2C 0:G2S 0:G3B 0:2U58 0:AEX 0:G2V 0:G3X "
  ++ "0:2U6J 0:G47 0:G4K 0:FKC 0:G4S 0:G51 0:3LY7 0:G6T 0:G77 0:AFZ 0:G8R 0:G92 0:GAA 0:GAF 0:AHH "
  ++ "0:GCN 0:GCP 0:GDG 0:GE2 0:GED 0:GEE 0:GEV 0:GG9 0:GGH 0:GGQ 0:GHF 0:GHP 0:GHR 0:GHR 0:GHR "
  ++ "0:2V58 0:M7K 0:GJU 0:GKF 0:2VDV 0:GKR 0:GKX 0:GLI 0:GPQ 0:GMW 0:GNC 0:GO8 0:GPU 0:GS6 0:GSW "
  ++ "0:GUR 0:GV7 0:GW4 0:GW4 0:GWP 0:GX7 0:GXF 0:GXU 0:H7A 0:GZQ 0:H7B 0:H1T 0:H2S 0:G7B 0:HKE 0:HCE "
  ++ "0:HDG 0:HE5 0:HAJ 0:HF6 0:HF5 0:HIK 0:2X9G 0:HKI 0:HKN 0:HL2 0:HLM 0:HLU 0:HNM 0:2XM0 0:2XNU "
  ++ "0:HRG 0:HSR 0:HT3 0:HQW 0:HUU 0:AUM 0:AV0 0:HZC 0:I0U 0:I0U 0:2Y88 0:I4J 0:I54 0:I5J 0:I5V "
  ++ "0:2YHK 0:I67 0:I6E 0:ITV 0:I76 0:AYP 0:I8W 0:I9A 0:IBK 0:IA5 0:2Z1G 0:IF7 0:2Z1I 0:IGE 0:IGB "
  ++ "0:IGS 0:IJL 0:IJM 0:B3J 0:IKD 0:ILK 0:IM5 0:IND 0:B4Y 0:2ZR7 0:B5O 0:IPC 0:IPF 0:IPI 0:IQ2 "
  ++ "0:3PG2 0:IRI 0:3035 0:3035 0:POH 0:ISI 0:ISI 0:B7R 0:335K 0:3CGQ 0:IUA 0:IUJ 0:B8J 0:IVU 0:IX9 "
  ++ "0:IXJ 0:IYH 0:J29 0:BAY 0:BA4 0:J2S 0:30T0 0:J47 0:J7S 0:J7W 0:J7Y 0:J7W 0:J96 0:J9Q 0:JAQ "
  ++ "0:JAC 0:JAN 0:JBY 0:JCI 0:JCM 0:JDC 0:JDN 0:JFH 0:JHT 0:JIS 0:JM8 0:31N0 0:JLP 0:JJW 0:JMW "
  ++ "0:JNN 0:JQC 0:31TD 0:JS2 0:JPH 0:JOP 0:BHQ 0:JU1 0:JUM 0:JVH 0:JUF 0:BJG 0:K0F 0:K18 0:32MI "
  ++ "0:K4J 0:KC8 0:K7D 0:BO9 0:K9D 0:BNS 0:BMS 0:G42 0:G45 0:KCG 0:K9O 0:PF1 0:DEH 0:KD3 0:KD7 0:KDD "
  ++ "0:KF2 0:KER 0:33CZ 0:BPL 0:KJE 0:KG5 0:KLU 0:KN9 0:33HP 0:KNI 0:KKF 0:KR8 0:BRX 0:KSI 0:KV7 "
  ++ "0:KX6 0:L2G 0:33XF 0:L3V 0:BVC 0:L5T 0:34BR 0:L78 0:BWU 0:L82 0:L9B 0:LA2 0:LA3 0:34P9 0:2YVF "
  ++ "0:34SA 0:LE6 0:354S 0:LHB 0:LHP 0:LEV 0:LJQ 0:LKU 0:LMF 0:LKX 0:LM1 0:LMG 0:LMT 0:357I 0:LKK "
  ++ "0:LRJ 0:LTA 0:C37 0:LVV 0:LVR 0:35JL 0:LQ1 0:M0E 0:35NI 0:35OU 0:M2U 0:M61 0:M5A 0:M57 0:C5Y "
  ++ "0:M6I 0:M7X 0:M7R 0:M99 0:2U5H 0:MDH 0:368Z 0:MFW 0:36I3 0:MJS 0:MK5 0:MKW 0:36YW 0:MM8 0:MMT "
  ++ "0:3779 0:37DG 0:MT6 0:MTN 0:CDO 0:MUD 0:CE0 0:CE0 0:MYV 0:MZG 0:N01 0:N0L 0:N2I 0:CGR 0:N50 "
  ++ "0:386U 0:N5Q 0:389E 0:N74 0:2ZRZ 0:NBK 0:38V5 0:38VS 0:38ZO 0:CN0 0:CNC 0:NHW 0:394J 0:394I "
  ++ "0:395L 0:396B 0:NJ2 0:NJ3 0:NJ3 0:NKA 0:COP 0:NM3 0:CP2 0:CRA 0:39R1 0:NRI 0:NT8 0:NV0 0:CTF "
  ++ "0:3A5I 0:NYU 0:3A8Q 0:3A9X 0:O0F 0:O2Z 0:CVJ 0:O5C 0:O5M 0:O5R 0:3AT8 0:3B1J 0:3B1J 0:OA6 0:D1E "
  ++ "0:3B8R 0:OG6 0:OG9 0:D2F 0:3BEO 0:ONM 0:D5S 0:OO8 0:OO3 0:OOW 0:3C06 0:ORN 0:D8H 0:OUF 0:OW2 "
  ++ "0:OXX 0:D9W 0:3CIW 0:3CJR 0:DAX 0:3CNT 0:P6I 0:3CQM 0:P79 0:PA2 0:PAD 0:3D22 0:3D43 0:PCW "
  ++ "0:3D7S 0:PDC 0:33A7 0:DED 0:PF6 0:PHF 0:DFV 0:PJ2 0:HX1 0:3DLZ 0:3DMD 0:33BN 0:33BW 0:POH 0:POK "
  ++ "0:SDA 0:DIJ 0:PSH 0:PSB 0:PST 0:GC3 0:PTD 0:PTF 0:PTP 0:PUU 0:3EBG 0:PUT 0:PWD 0:PYB 0:Q0D "
  ++ "0:PWJ 0:Q0T 0:Q1Z 0:Q53 0:PXV 0:Q16 0:Q18 0:Q1O 0:3EIE 0:3EQZ 0:3EMT 0:DNV 0:Q9D 0:Q9F 0:QAE "
  ++ "0:3G0A 0:QCK 0:3F3G 0:DP9 0:DPD 0:3F75 0:3FF6 0:DPN 0:QJ4 0:QJG 0:QJR 0:QJT 0:QLL 0:QKO 0:QOE "
  ++ "0:QN6 0:QRD 0:QP4 0:QQZ 0:QRQ 0:DSN 0:QU9 0:QV5 0:DTL 0:QXS 0:QXV 0:3GIV 0:R13 0:R1A 0:DV9 "
  ++ "0:R22 0:AEZ 0:3GZ2 0:3H46 0:DZ2 0:DZB 0:RDS 0:RFX 0:RKA 0:RPX 0:3HRC 0:RSB 0:RSX 0:RVF 0:RXZ "
  ++ "0:3I9B 0:2UPW 0:S0B 0:RZW 0:S1C 0:2UVY 0:S7O 0:SAG 0:3JKI 0:3JL9 0:SK4 0:SMP 0:SNL 0:3JU6 0:SNV "
  ++ "0:SVS 0:T07 0:T08 0:SXO 0:T89 0:T91 0:3KSA 0:TJF 0:EJ9 0:TKN 0:3L2V 0:ELI 0:TS3 0:IIA 0:TUR "
  ++ "0:3LTX 0:3LZU 0:EPA 0:EPI 0:U00 0:3MDM 0:ER6 0:3MHI 0:U17 0:U17 0:U21 0:3MPI 0:U76 0:EUR 0:U95 "
  ++ "0:UCN 0:UDE 0:UF2 0:EZ2 0:3NSG 0:UMQ 0:UV4 0:V0D 0:F66 0:F71 0:V3B 0:3OWE 0:F7C 0:3OXX 0:3P5A "
  ++ "0:3P8X 0:VCR 0:F9Y 0:VEH 0:VEM 0:VET 0:VF3 0:VFA 0:VGB 0:3PXC"

def exclusionText : String :=
  "N4+1 1+1 1B 9 8 15C+7 3G+1 1 2B 2 Y+2 2 71+1 RP 9 4 4 4 C 9 1+1 1 8 H 9 4 4 4 C 33R 1 1 1 1 1 1 "
  ++ "1P 2 A 1 7 7 7 7 2+1 9 1 1 2+1 84 3+1 E5+1 1IP 14PV+7H 2 1 2+9 1 1 2+1 3+1V 2+2X 1V 1 A+C 1+4 1 "
  ++ "1+1 1+1 1+8 16A7+6 2E+5 1M4F+F1"

def combiningRuns : Array (Nat × Nat) :=
  (decodeRuns combiningText).map fun (start, v) => (start, number36 v)

def combiningClass (c : Nat) : Nat := runAt combiningRuns c 0

def decompositions : Array (Nat × List Nat) :=
  ((words decompositionText).foldl (fun (acc : Array (Nat × List Nat) × Nat) w =>
    match w.splitOn ":" with
    | g :: v :: _ =>
      let c := acc.2 + number36 g
      (acc.1.push (c, (v.splitOn ",").map number36), c + 1)
    | _ => acc) (#[], 0)).1

def exclusions : Ranges := decodeRanges exclusionText

def decompositionOf (c : Nat) : Option (List Nat) :=
  match decompositions[lowerBound decompositions c]? with
  | some (k, ds) => if k == c then some ds else none
  | none => none

def pairKey (a b : Nat) : Nat := a * 0x110000 + b

def compositions : Array (Nat × Nat) :=
  let pairs := decompositions.toList.filterMap fun (c, ds) =>
    match ds with
    | [a, b] => if rangesHold exclusions c then none else some (pairKey a b, c)
    | _ => none
  (pairs.mergeSort fun x y => x.1 ≤ y.1).toArray

def composePair (a b : Nat) : Option Nat :=
  let k := pairKey a b
  match compositions[lowerBound compositions k]? with
  | some (k', c) => if k' == k then some c else none
  | none => none

end Unicode

end MonitorWire
