import MonitorWire.Unicode.Table

namespace MonitorWire

namespace Unicode

def versions : List String := ["1.1", "2.0", "2.1", "3.0", "3.1", "3.2", "4.0", "4.1", "5.0", "5.1", "5.2", "6.0", "6.1", "6.2", "6.3", "7.0", "8.0", "9.0", "10.0", "11.0", "12.0", "12.1", "13.0", "14.0", "15.0", "15.1", "16.0"]

def ageText : String :=
  "DY:1.1 4:3.0 U:1.1 8:3.0 1:3.2 1:4.0 I:3.0 3:4.0 B:4.1 E:5.0 2H:1.1 5:3.0 2:4.0 1B:1.1 1:3.0 "
  ++ "A:1.1 5:3.0 H:4.0 1Y:1.1 9:3.0 1:3.2 8:4.0 5:4.1 3:4.0 2:1.1 1:3.0 D:3.2 4:5.1 2:1.1 2:5.1 2:NA "
  ++ "1:1.1 3:5.0 1:1.1 1:7.0 4:NA 7:1.1 1:NA 1:1.1 1:NA K:1.1 1:NA 18:1.1 1:5.1 7:1.1 1:3.0 2:3.2 "
  ++ "1:1.1 1:3.0 1:1.1 1:3.0 1:1.1 1:3.0 1:1.1 1:3.0 I:1.1 2:3.1 1:3.2 5:4.0 4:4.1 1:3.0 C:1.1 1:3.0 "
  ++ "1U:1.1 1:3.0 C:1.1 1:3.0 15:1.1 1:5.1 2:3.0 2:3.2 4:3.0 1H:1.1 2:3.2 2:1.1 2:3.2 2:1.1 2:3.2 "
  ++ "1:5.0 S:1.1 2:3.0 8:1.1 2:4.1 2:1.1 6:5.0 G:3.2 4:5.0 G:5.1 2:5.2 2:6.0 8:7.0 1:NA 12:1.1 2:NA "
  ++ "7:1.1 1:11.0 13:1.1 1:11.0 1:1.1 1:3.0 2:NA 2:7.0 1:6.1 1:NA H:2.0 1:4.1 D:2.0 A:1.1 1:5.0 "
  ++ "9:1.1 1:2.0 3:4.1 8:NA R:1.1 4:NA 1:11.0 5:1.1 B:NA 4:4.0 1:6.1 1:7.0 5:5.1 1:4.1 1:1.1 9:4.0 "
  ++ "5:5.1 1:1.1 1:6.3 1:14.0 1:4.1 1:1.1 1:6.0 Q:1.1 5:5.1 J:1.1 3:3.0 3:4.0 6:4.1 1:6.0 E:1.1 "
  ++ "2:3.2 20:1.1 2:3.0 5:1.1 1:3.0 F:1.1 1:3.0 U:1.1 2:4.0 A:1.1 5:3.0 1:4.0 E:3.0 1:NA U:3.0 3:4.0 "
  ++ "R:3.0 2:NA 3:4.0 U:4.1 I:5.1 1D:3.0 1:3.2 E:NA 1N:5.0 2:NA 3:11.0 1A:5.2 2:NA F:5.2 1:NA S:6.0 "
  ++ "2:NA 1:6.0 1:NA B:10.0 5:NA V:14.0 1:NA 2:14.0 5:NA 1:16.0 8:14.0 1:6.1 1:7.0 B:6.1 6:7.0 2:8.0 "
  ++ "1:14.0 8:9.0 A:13.0 B:14.0 1:11.0 F:9.0 1:8.0 R:6.1 1:7.0 1:5.2 3:1.1 1:4.0 1H:1.1 2:6.0 I:1.1 "
  ++ "1:5.2 1:6.0 5:1.1 1:5.2 2:6.0 P:1.1 2:5.1 5:6.0 1:7.0 2:5.2 2:5.0 1:4.1 2:5.0 1:7.0 3:1.1 1:NA "
  ++ "8:1.1 2:NA 2:1.1 2:NA M:1.1 1:NA 7:1.1 1:NA 1:1.1 3:NA 4:1.1 2:NA 1:1.1 1:4.0 7:1.1 2:NA 2:1.1 "
  ++ "2:NA 3:1.1 1:4.1 8:NA 1:1.1 4:NA 2:1.1 1:NA 5:1.1 2:NA L:1.1 1:5.2 2:10.0 1:11.0 2:NA 1:4.0 "
  ++ "1:1.1 1:4.0 1:NA 6:1.1 4:NA 2:1.1 2:NA M:1.1 1:NA 7:1.1 1:NA 2:1.1 1:NA 2:1.1 1:NA 2:1.1 2:NA "
  ++ "1:1.1 1:NA 5:1.1 4:NA 2:1.1 2:NA 3:1.1 3:NA 1:5.1 7:NA 4:1.1 1:NA 1:1.1 7:NA F:1.1 1:5.1 1:11.0 "
  ++ "A:NA 3:1.1 1:NA 7:1.1 1:4.0 1:1.1 1:NA 3:1.1 1:NA M:1.1 1:NA 7:1.1 1:NA 2:1.1 1:NA 5:1.1 2:NA "
  ++ "A:1.1 1:NA 3:1.1 1:NA 3:1.1 2:NA 1:1.1 F:NA 1:1.1 3:4.0 2:NA A:1.1 1:6.1 1:4.0 7:NA 1:8.0 "
  ++ "6:10.0 1:NA 3:1.1 1:NA 8:1.1 2:NA 2:1.1 2:NA M:1.1 1:NA 7:1.1 1:NA 2:1.1 1:NA 1:4.0 4:1.1 2:NA "
  ++ "8:1.1 1:5.1 2:NA 2:1.1 2:NA 3:1.1 7:NA 1:13.0 2:1.1 4:NA 2:1.1 1:NA 3:1.1 2:5.1 2:NA B:1.1 "
  ++ "1:4.0 6:6.0 A:NA 2:1.1 1:NA 6:1.1 3:NA 3:1.1 1:NA 4:1.1 3:NA 2:1.1 1:NA 1:1.1 1:NA 2:1.1 3:NA "
  ++ "2:1.1 3:NA 3:1.1 3:NA 8:1.1 1:4.1 3:1.1 4:NA 5:1.1 3:NA 3:1.1 1:NA 4:1.1 2:NA 1:5.1 6:NA 1:1.1 "
  ++ "E:NA 1:4.1 C:1.1 8:4.0 5:NA 1:7.0 3:1.1 1:11.0 8:1.1 1:NA 3:1.1 1:NA N:1.1 1:NA A:1.1 1:7.0 "
  ++ "5:1.1 2:NA 1:14.0 1:5.1 7:1.1 1:NA 3:1.1 1:NA 4:1.1 7:NA 2:1.1 1:NA 2:5.1 1:8.0 2:NA 1:14.0 "
  ++ "2:NA 2:1.1 2:5.1 2:NA A:1.1 7:NA 1:12.0 8:5.1 1:9.0 1:7.0 2:1.1 1:11.0 8:1.1 1:NA 3:1.1 1:NA "
  ++ "N:1.1 1:NA A:1.1 1:NA 5:1.1 2:NA 2:4.0 7:1.1 1:NA 3:1.1 1:NA 4:1.1 7:NA 2:1.1 6:NA 1:14.0 1:1.1 "
  ++ "1:NA 2:1.1 2:5.0 2:NA A:1.1 1:NA 2:5.0 1:15.0 C:NA 1:10.0 1:7.0 2:1.1 1:13.0 8:1.1 1:NA 3:1.1 "
  ++ "1:NA N:1.1 1:6.0 G:1.1 1:6.0 2:10.0 1:5.1 6:1.1 1:5.1 1:NA 3:1.1 1:NA 4:1.1 1:6.0 1:9.0 4:NA "
  ++ "3:9.0 1:1.1 7:9.0 1:8.0 2:1.1 2:5.1 2:NA A:1.1 6:5.1 3:9.0 7:5.1 1:NA 1:13.0 2:3.0 1:NA I:3.0 "
  ++ "3:NA O:3.0 1:NA 9:3.0 1:NA 1:3.0 2:NA 7:3.0 3:NA 1:3.0 4:NA 6:3.0 1:NA 1:3.0 1:NA 8:3.0 6:NA "
  ++ "A:7.0 2:NA 3:3.0 C:NA 1M:1.1 4:NA T:1.1 11:NA 2:1.1 1:NA 1:1.1 1:NA 1:12.0 2:1.1 1:12.0 1:1.1 "
  ++ "1:NA 1:12.0 1:1.1 6:12.0 4:1.1 1:12.0 7:1.1 1:12.0 3:1.1 1:NA 1:1.1 1:NA 1:1.1 2:12.0 2:1.1 "
  ++ "1:12.0 D:1.1 1:12.0 3:1.1 2:NA 5:1.1 1:NA 1:1.1 1:NA 6:1.1 1:15.0 1:NA A:1.1 2:NA 2:1.1 2:6.1 "
  ++ "W:NA 20:2.0 1:NA X:2.0 1:3.0 2:5.1 4:NA R:2.0 4:6.0 6:2.0 1:3.0 1:2.0 1:NA L:2.0 3:3.0 7:2.0 "
  ++ "1:3.0 1:2.0 3:3.0 1:NA F:3.0 1:NA 1:5.1 1:3.0 2:4.1 3:5.1 4:5.2 2:6.0 11:NA Y:3.0 1:5.1 5:3.0 "
  ++ "1:5.1 2:3.0 1:5.1 7:3.0 3:5.1 4:3.0 6:5.1 Q:3.0 1S:5.1 4:5.2 2:5.1 12:1.1 1:NA 1:6.1 5:NA 1:6.1 "
  ++ "2:NA 13:1.1 2:3.2 2:4.1 1:1.1 1:4.1 3:6.1 2I:1.1 5:5.2 1W:1.1 5:5.2 2A:1.1 6:5.2 7:3.0 1:4.1 "
  ++ "1R:3.0 1:4.1 1:3.0 1:NA 4:3.0 2:NA 7:3.0 1:NA 1:3.0 1:NA 4:3.0 2:NA 13:3.0 1:4.1 1:3.0 1:NA "
  ++ "4:3.0 2:NA V:3.0 1:4.1 1:3.0 1:NA 4:3.0 2:NA 7:3.0 1:NA 1:3.0 1:NA 4:3.0 2:NA 7:3.0 1:4.1 7:3.0 "
  ++ "1:NA N:3.0 1:4.1 V:3.0 1:4.1 1:3.0 1:NA 4:3.0 2:NA 7:3.0 1:4.1 13:3.0 1:4.1 J:3.0 2:NA 2:6.0 "
  ++ "2:4.1 S:3.0 3:NA Q:4.1 6:NA 2D:3.0 1:8.0 2:NA 6:8.0 2:NA 1:5.2 HI:3.0 9:5.2 T:3.0 3:NA 29:3.0 "
  ++ "8:7.0 7:NA D:3.2 1:14.0 7:3.2 1:14.0 9:NA 1:14.0 N:3.2 9:NA K:3.2 C:NA D:3.2 1:NA 3:3.2 1:NA "
  ++ "2:3.2 C:NA 2L:3.0 1:4.0 2:NA A:3.0 6:NA A:4.0 6:NA F:3.0 1:14.0 A:3.0 6:NA 2G:3.0 1:11.0 7:NA "
  ++ "16:3.0 1:5.1 5:NA 1Y:5.2 A:NA T:4.0 2:7.0 1:NA C:4.0 4:NA C:4.0 4:NA 1:4.0 3:NA 16:4.0 2:NA "
  ++ "5:4.0 B:NA 16:4.1 2:5.2 4:NA Q:4.1 6:NA A:4.1 1:5.2 3:NA 2:4.1 W:4.0 S:4.1 2:NA 2:4.1 1R:5.2 "
  ++ "1:NA T:5.2 2:NA B:5.2 6:NA A:5.2 6:NA E:5.2 2:NA F:7.0 2:13.0 E:14.0 1D:NA 24:5.0 1:14.0 1:NA "
  ++ "2:16.0 19:5.0 2:14.0 1:16.0 17:5.1 3:6.1 C:5.1 6:6.1 1G:6.0 8:NA 4:6.0 1K:5.1 3:NA F:5.1 3:NA "
  ++ "1F:5.1 9:9.0 2:16.0 5:NA 17:11.0 2:NA 3:11.0 8:6.1 8:NA Z:5.2 4:6.1 1:10.0 2:7.0 1:12.0 5:NA "
  ++ "30:4.0 2G:4.1 7:5.0 S:5.1 F:7.0 4:10.0 1:14.0 1:9.0 1:6.0 1:5.2 2:5.0 4B:1.1 1:2.0 4:5.1 2I:1.1 "
  ++ "6:5.1 M:1.1 2:NA 6:1.1 2:NA 12:1.1 2:NA 6:1.1 2:NA 8:1.1 1:NA 1:1.1 1:NA 1:1.1 1:NA 1:1.1 1:NA "
  ++ "V:1.1 2:NA 1H:1.1 1:NA F:1.1 1:NA E:1.1 2:NA 6:1.1 1:NA J:1.1 2:NA 3:1.1 1:NA 9:1.1 1:NA 1B:1.1 "
  ++ "1:3.0 N:1.1 1:3.2 6:3.0 5:3.2 2:4.0 2:4.1 1:3.2 7:4.1 5:3.2 1:5.1 1:NA 4:6.3 7:1.1 1:3.2 2:NA "
  ++ "R:1.1 1:NA 5:4.1 8:6.0 3:NA B:1.1 1:2.0 1:2.1 3:3.0 2:3.2 4:4.1 3:5.2 1:6.0 1:6.2 3:7.0 1:8.0 "
  ++ "1:10.0 1:14.0 F:NA I:1.1 2:3.0 7:3.2 1:4.1 4:5.0 1:5.1 F:NA 1L:1.1 2:3.0 1:4.0 1:4.1 F:3.2 "
  ++ "1:4.1 2:5.0 1:5.1 3:5.2 1C:1.1 1:3.0 1:5.0 4:5.1 1:5.2 2:8.0 4:NA 2J:1.1 9:3.0 C:3.2 6Q:1.1 "
  ++ "E:3.2 1:1.1 1:3.0 3D:1.1 1:3.0 1:3.2 U:3.0 1G:3.2 2:4.0 B:4.1 C:5.0 1:5.2 B:6.0 7:7.0 4:9.0 "
  ++ "1:10.0 11:1.1 2:3.0 3:16.0 M:NA B:1.1 L:NA 3V:1.1 K:3.2 1:4.0 46:1.1 A:3.2 28:1.1 8:3.0 8:3.2 "
  ++ "K:1.1 2:4.0 2:3.2 1:4.1 1:3.0 2E:1.1 2:3.0 C:3.2 2:4.1 A:3.2 8:4.0 B:4.1 1:5.1 2:5.2 2:4.0 "
  ++ "G:4.1 1:5.0 A:5.1 3:5.2 4:5.1 A:5.2 1:6.0 J:5.2 1:6.0 1:5.2 4:6.0 O:5.2 1:7.0 4:1.1 1:6.0 4:1.1 "
  ++ "2:6.0 S:1.1 1:6.0 Z:1.1 1:6.0 1:1.1 1:6.0 4:1.1 3:6.0 1:1.1 1:5.2 7:1.1 2:6.0 7:1.1 E:3.2 V:1.1 "
  ++ "3:6.0 O:1.1 1:6.0 E:1.1 1:6.0 7:4.1 4:5.0 1:6.1 1:5.1 1:6.1 2:6.0 S:3.2 4:5.1 G:3.2 74:3.0 "
  ++ "E8:3.2 E:4.0 6:4.1 7:5.0 5:5.1 4:5.0 15:5.1 3:7.0 5:5.1 5:5.2 Q:7.0 2:NA W:7.0 1:NA 1:13.0 "
  ++ "Y:7.0 3:11.0 C:7.0 1:12.0 8:7.0 1:10.0 P:11.0 4:8.0 F:11.0 1:12.0 1B:4.1 1:14.0 1B:4.1 1:14.0 "
  ++ "D:5.0 3:5.1 1:5.2 3:5.1 4:5.0 6:5.1 2:5.2 2Z:4.1 7:5.2 2:6.1 5:NA 19:4.1 1:NA 1:6.1 5:NA 1:6.1 "
  ++ "2:NA 1I:4.1 2:6.1 7:NA 1:4.1 1:6.0 E:NA 1:6.0 N:4.1 9:NA 7:4.1 1:NA 7:4.1 1:NA 7:4.1 1:NA 7:4.1 "
  ++ "1:NA 7:4.1 1:NA 7:4.1 1:NA 7:4.1 1:NA 7:4.1 1:NA W:5.1 O:4.1 4:5.1 2:4.1 J:5.1 1:5.2 A:6.1 "
  ++ "7:7.0 2:9.0 5:10.0 5:11.0 1:12.0 3:13.0 B:14.0 Y:NA Q:3.0 1:NA 2H:3.0 C:NA 5Y:3.0 Q:NA C:3.0 "
  ++ "4:15.1 1K:1.1 3:3.0 3:3.2 1:3.0 1:1.1 1:NA 2C:1.1 2:3.2 2:NA 6:1.1 2:3.2 2M:1.1 1:3.2 5:NA "
  ++ "14:1.1 1:5.1 1:10.0 1:11.0 1:NA 2M:1.1 1:NA G:1.1 O:3.0 3:6.0 5:13.0 G:4.1 K:5.1 2:16.0 9:NA "
  ++ "1:15.1 G:3.2 T:1.1 2:4.0 1:NA 10:1.1 C:5.2 1:4.0 F:3.2 S:1.1 2:4.0 1:4.1 1E:1.1 F:3.2 C:1.1 "
  ++ "4:4.0 1B:1.1 1:12.1 3B:1.1 4:4.0 2R:1.1 2:4.0 V:1.1 1:4.0 52U:3.0 A:13.0 1S:4.0 G4M:1.1 M:4.1 "
  ++ "8:5.1 8:5.2 1:6.1 9:8.0 L:10.0 5:11.0 D:13.0 3:14.0 WD:3.0 3:NA I:3.0 2:3.2 G:3.0 1:3.2 C:3.0 "
  ++ "1:3.2 3:3.0 1:3.2 1:3.0 9:NA 1C:5.2 8C:5.1 K:NA W:5.1 2:6.0 I:5.1 8:6.1 S:5.1 6:7.0 1:8.0 1:6.1 "
  ++ "2G:5.2 8:NA N:4.1 4:5.0 5:5.1 2:5.0 2Z:5.1 2:6.0 1:8.0 2:6.0 2:6.1 C:7.0 A:6.0 1:6.1 3:7.0 "
  ++ "1:9.0 1:11.0 2:7.0 6:8.0 2:11.0 6:12.0 2:14.0 5:12.0 4:13.0 3:16.0 2:NA 2:14.0 1:NA 1:14.0 1:NA "
  ++ "5:14.0 3:16.0 L:NA 3:14.0 2:13.0 1:7.0 2:6.1 1:6.0 5:5.1 18:4.1 1:13.0 3:NA A:5.2 6:NA 1K:5.0 "
  ++ "8:NA 1X:5.1 1:9.0 8:NA C:5.1 6:NA S:5.2 2:8.0 2:11.0 2C:5.1 B:NA 1:5.1 T:5.2 3:NA 26:5.2 1:NA "
  ++ "B:5.2 4:NA 2:5.2 V:7.0 1:NA 1J:5.1 9:NA E:5.1 2:NA A:5.1 2:NA 4:5.1 S:5.2 4:7.0 1V:5.2 O:NA "
  ++ "5:5.2 N:6.1 A:NA 6:6.0 2:NA 6:6.0 2:NA 6:6.0 9:NA 7:6.0 1:NA 7:6.0 1:NA 1C:7.0 4:8.0 2:7.0 "
  ++ "2:12.0 4:13.0 4:NA 28:8.0 1A:5.2 2:NA A:5.2 6:NA 8MC:2.0 C:NA N:5.2 4:NA 1D:5.2 4:NA 1KW:2.0 "
  ++ "566:1.1 2:6.1 1N:3.2 3:5.2 2:NA 2Y:4.1 12:NA 7:1.1 C:NA 5:1.1 5:NA 1:3.0 P:1.1 1:NA 5:1.1 1:NA "
  ++ "1:1.1 1:NA 2:1.1 1:NA 2:1.1 1:NA 30:1.1 G:6.0 1:14.0 G:NA A5:1.1 G:14.0 1S:1.1 2:NA 1I:1.1 7:NA "
  ++ "1:14.0 W:3.1 C:1.1 1:3.2 1:4.0 2:14.0 G:3.2 A:4.1 6:NA 4:1.1 3:5.1 7:7.0 2:8.0 L:1.1 2:3.2 "
  ++ "2:4.0 A:1.1 1:NA J:1.1 1:NA 4:1.1 4:NA 3:1.1 1:3.2 1:1.1 1:NA 3R:1.1 2:NA 1:1.1 1:NA 2M:1.1 "
  ++ "2:3.2 2M:1.1 3:NA 6:1.1 2:NA 6:1.1 2:NA 6:1.1 2:NA 3:1.1 3:NA 7:1.1 1:NA 7:1.1 A:NA 3:3.0 1:2.1 "
  ++ "3:1.1 C:4.0 1:NA Q:4.0 1:NA J:4.0 1:NA 2:4.0 1:NA F:4.0 2:NA E:4.0 Y:NA 3F:4.0 5:NA 3:4.0 4:NA "
  ++ "19:4.0 3:NA 9:4.0 23:4.1 2:7.0 2:9.0 1:NA C:5.1 1:13.0 3:NA 1:7.0 1B:NA 1A:5.1 3M:NA T:5.1 3:NA "
  ++ "1D:5.1 F:NA S:7.0 4:NA V:3.1 1:7.0 4:3.1 9:NA 3:10.0 R:3.1 5:NA 17:7.0 5:NA U:4.0 1:NA 1:4.0 "
  ++ "10:4.1 4:NA E:4.1 16:NA 12:3.1 2:4.0 12:3.1 28:4.0 2:NA A:4.0 6:NA 10:9.0 4:NA 10:9.0 4:NA "
  ++ "14:7.0 8:NA 1G:7.0 B:NA 1:7.0 B:14.0 1:NA F:14.0 1:NA 7:14.0 1:NA 2:14.0 1:NA B:14.0 1:NA "
  ++ "F:14.0 1:NA 7:14.0 1:NA 2:14.0 3:NA 1G:16.0 C:NA 8N:7.0 9:NA M:7.0 A:NA 8:7.0 O:NA 6:14.0 1:NA "
  ++ "16:14.0 1:NA 9:14.0 1X:NA 6:4.0 2:NA 1:4.0 1:NA 18:4.0 1:NA 2:4.0 3:NA 1:4.0 2:NA 1:4.0 M:5.2 "
  ++ "1:NA 9:5.2 1R:7.0 8:NA 9:7.0 1C:NA J:8.0 1:NA 2:8.0 5:NA 5:8.0 Q:5.0 2:5.2 3:NA 1:5.0 Q:5.1 "
  ++ "5:NA 1:5.1 1S:NA 1K:6.1 4:NA 2:8.0 2:6.1 G:8.0 2:NA 1A:8.0 4:4.1 1:NA 2:4.1 5:NA 8:4.1 1:NA "
  ++ "3:4.1 1:NA R:4.1 2:11.0 2:NA 3:4.1 4:NA 9:4.1 1:11.0 7:NA 9:4.1 7:NA W:5.2 W:7.0 W:NA 13:7.0 "
  ++ "4:NA C:7.0 9:NA 1I:5.2 3:NA T:5.2 2:NA R:5.2 5:NA 8:5.2 I:7.0 7:NA 4:7.0 C:NA 7:7.0 28:NA "
  ++ "21:5.2 1J:NA 1F:8.0 D:NA 1F:8.0 7:NA 6:8.0 14:11.0 8:NA A:11.0 6:NA 12:16.0 3:NA T:16.0 8:NA "
  ++ "2:16.0 5S:NA V:5.2 1:NA 16:13.0 1:NA 3:13.0 2:NA 2:13.0 G:NA 3:16.0 1J:NA 1:16.0 3:15.0 14:11.0 "
  ++ "8:NA 16:11.0 M:NA Q:14.0 12:NA S:13.0 K:NA N:12.0 9:NA 26:6.0 4:NA U:6.0 6:14.0 9:NA 1:7.0 "
  ++ "1U:5.2 1:14.0 A:NA 1:11.0 2:NA P:6.1 7:NA A:6.1 6:NA 1H:6.1 1:NA E:6.1 3:11.0 1:13.0 8:NA "
  ++ "13:7.0 9:NA 21:6.1 4:8.0 1:7.0 2:13.0 A:6.1 1:7.0 5:8.0 1:NA K:7.0 B:NA I:7.0 1:NA 17:7.0 1:9.0 "
  ++ "3:15.0 1Q:NA 7:8.0 1:NA 1:8.0 1:NA 4:8.0 1:NA F:8.0 1:NA B:8.0 6:NA 1N:7.0 5:NA A:7.0 6:NA "
  ++ "1:8.0 3:7.0 1:NA 8:7.0 2:NA 2:7.0 2:NA M:7.0 1:NA 7:7.0 1:NA 2:7.0 1:NA 5:7.0 1:NA 1:11.0 9:7.0 "
  ++ "2:NA 2:7.0 2:NA 3:7.0 2:NA 1:8.0 6:NA 1:7.0 5:NA 7:7.0 2:NA 7:7.0 3:NA 5:7.0 B:NA A:16.0 1:NA "
  ++ "1:16.0 2:NA 1:16.0 1:NA 12:16.0 1:NA A:16.0 1:NA 1:16.0 2:NA 1:16.0 1:NA 4:16.0 1:NA A:16.0 "
  ++ "1:NA 2:16.0 8:NA 2:16.0 T:NA 2I:9.0 1:13.0 1:9.0 1:NA 1:9.0 1:11.0 1:12.0 2:13.0 U:NA 20:7.0 "
  ++ "8:NA A:7.0 4M:NA 1I:7.0 2:NA I:7.0 K:8.0 Y:NA 1X:7.0 B:NA A:7.0 6:NA D:9.0 J:NA 1K:6.1 1:12.0 "
  ++ "1:14.0 6:NA A:6.1 6:NA K:16.0 S:NA Q:8.0 1:11.0 2:NA F:8.0 4:NA G:8.0 7:14.0 55:NA 1O:11.0 "
  ++ "2S:NA 2B:7.0 C:NA 1:7.0 7:13.0 2:NA 1:13.0 2:NA 8:13.0 1:NA 2:13.0 1:NA U:13.0 1:NA 2:13.0 2:NA "
  ++ "C:13.0 9:NA A:13.0 1Y:NA 8:12.0 2:NA 1A:12.0 2:NA B:12.0 R:NA 20:10.0 8:NA 1G:10.0 2:12.0 "
  ++ "N:10.0 1:11.0 5:10.0 D:NA G:14.0 1L:7.0 7:NA A:15.0 52:NA Y:16.0 E:NA A:16.0 6:NA 9:9.0 1:NA "
  ++ "19:9.0 1:NA E:9.0 A:NA T:9.0 3:NA W:9.0 2:NA M:9.0 1:NA E:9.0 21:NA 7:10.0 1:NA 2:10.0 1:NA "
  ++ "18:10.0 3:NA 1:10.0 1:NA 2:10.0 1:NA 9:10.0 8:NA A:10.0 6:NA 6:11.0 1:NA 2:11.0 1:NA 11:11.0 "
  ++ "1:NA 2:11.0 1:NA 6:11.0 7:NA A:11.0 8M:NA P:11.0 7:NA H:15.0 1:NA 15:15.0 3:NA S:15.0 1:16.0 "
  ++ "2D:NA 1:13.0 F:NA 1E:12.0 D:NA 1:12.0 OF:5.0 16:7.0 1:8.0 2U:NA 2R:5.0 C:7.0 1:NA 4:5.0 1:7.0 "
  ++ "B:NA 5G:8.0 218:NA 2R:14.0 D:NA TR:5.2 1:15.0 9:12.0 T:15.0 A:NA 32Z:16.0 5:NA G7:8.0 5A1:NA "
  ++ "1M:16.0 1C6:NA FT:6.0 7:NA V:7.0 1:NA A:7.0 4:NA 2:7.0 27:14.0 1:NA A:14.0 6:NA U:7.0 2:NA "
  ++ "6:7.0 A:NA 1Y:7.0 A:NA A:7.0 1:NA 7:7.0 1:NA L:7.0 5:NA J:7.0 C0:NA 1M:16.0 5I:NA 2J:11.0 2T:NA "
  ++ "1X:6.1 6:12.0 4:NA 1:12.0 1B:6.1 9:12.0 7:NA H:6.1 1S:NA 1:9.0 1:10.0 2:12.0 1:13.0 B:NA 2:13.0 "
  ++ "E:NA 4Q5:9.0 5:11.0 6:12.0 8:NA KZ:9.0 DF:13.0 15:NA 1:16.0 9:13.0 6W7:NA 4:14.0 1:NA 7:14.0 "
  ++ "1:NA 2:14.0 1:NA 2:6.0 7X:10.0 4:14.0 F:NA 1:15.0 T:NA 3:12.0 2:NA 1:15.0 E:NA 4:12.0 8:NA "
  ++ "B0:10.0 1S4:NA 2Z:7.0 5:NA D:7.0 3:NA 9:7.0 7:NA A:7.0 2:NA 8:7.0 318:NA 6Y:16.0 6:NA C4:16.0 "
  ++ "24:NA 1A:14.0 2:NA N:14.0 9:NA 38:14.0 1O:NA 6U:3.1 A:NA 13:3.1 2:NA 1:5.1 50:3.1 B:8.0 2:14.0 "
  ++ "L:NA 1Y:4.1 3E:NA K:15.0 C:NA K:11.0 C:NA 2F:4.0 9:NA I:5.0 7:11.0 3R:NA 2D:3.1 1:NA 1Z:3.1 "
  ++ "1:NA 2:3.1 2:NA 1:3.1 2:NA 2:3.1 2:NA 4:3.1 1:NA C:3.1 1:NA 1:3.1 1:NA 4:3.1 1:4.0 2:3.1 1:NA "
  ++ "1T:3.1 1:NA 4:3.1 2:NA 8:3.1 1:NA 7:3.1 1:NA S:3.1 1:NA 4:3.1 1:NA 5:3.1 1:NA 1:3.1 3:NA 7:3.1 "
  ++ "1:NA 9E:3.1 2:4.1 2:NA 82:3.1 2:5.0 2:NA 1E:3.1 I4:8.0 F:NA 5:8.0 1:NA F:8.0 UO:NA V:14.0 6:NA "
  ++ "6:15.0 5X:NA 7:9.0 1:NA H:9.0 2:NA 7:9.0 1:NA 2:9.0 1:NA 5:9.0 5:NA 1Q:15.0 X:NA 1:15.0 34:NA "
  ++ "19:12.0 3:NA E:12.0 2:NA A:12.0 4:NA 2:12.0 8W:NA V:14.0 H:NA 1M:12.0 5:NA 1:12.0 CW:NA 16:15.0 "
  ++ "5Y:NA 17:16.0 4:NA 1:16.0 DC:NA 7:14.0 1:NA 4:14.0 1:NA 2:14.0 1:NA F:14.0 1:NA 5H:7.0 2:NA "
  ++ "G:7.0 15:NA 23:9.0 1:12.0 4:NA A:9.0 4:NA 2:9.0 LT:NA 1W:11.0 24:NA 1P:12.0 5E:NA 4:6.1 1:NA "
  ++ "R:6.1 1:NA 2:6.1 1:NA 1:6.1 2:NA 1:6.1 1:NA A:6.1 1:NA 4:6.1 1:NA 1:6.1 1:NA 1:6.1 6:NA 1:6.1 "
  ++ "4:NA 1:6.1 1:NA 1:6.1 1:NA 1:6.1 1:NA 3:6.1 1:NA 2:6.1 1:NA 1:6.1 2:NA 1:6.1 1:NA 1:6.1 1:NA "
  ++ "1:6.1 1:NA 1:6.1 1:NA 1:6.1 1:NA 2:6.1 1:NA 1:6.1 2:NA 4:6.1 1:NA 7:6.1 1:NA 4:6.1 1:NA 4:6.1 "
  ++ "1:NA 1:6.1 1:NA A:6.1 1:NA H:6.1 5:NA 3:6.1 1:NA 5:6.1 1:NA H:6.1 1G:NA 2:6.1 7I:NA 18:5.1 4:NA "
  ++ "2S:5.1 C:NA F:6.0 2:NA E:6.0 1:7.0 1:NA F:6.0 1:NA F:6.0 M:7.0 A:NA B:5.2 2:7.0 3:13.0 V:5.2 "
  ++ "1:11.0 1:6.0 1:5.2 B:6.0 1:5.2 1:6.0 1:5.2 2:6.0 1:5.2 3:6.0 1:5.2 3:6.0 5:5.2 8:6.0 1:5.2 "
  ++ "7:6.0 1:5.2 A:6.0 2:6.1 1:12.0 3:13.0 9:6.0 1:5.2 1:6.0 2:5.2 2:6.0 1:5.2 A:6.0 4:5.2 2:6.0 "
  ++ "1:5.2 A:6.0 I:9.0 1:13.0 1K:NA Q:6.0 1:5.2 2:6.0 D:NA Y:5.2 9:6.0 1:9.0 4:NA 9:5.2 7:NA 2:6.0 "
  ++ "E:NA 6:10.0 4A:NA X:6.0 C:7.0 3:8.0 6:6.0 1:7.0 1Y:6.0 1:7.0 2:8.0 K:6.0 C:7.0 11:6.0 1:7.0 "
  ++ "5:6.0 4:7.0 5:8.0 C:7.0 H:6.0 7:7.0 8:8.0 1R:6.0 1:7.0 1:6.0 1:7.0 52:6.0 1:7.0 4:6.0 2:7.0 "
  ++ "1:8.0 1Q:6.0 2:7.0 4:6.1 7:7.0 5:8.0 O:6.0 I:7.0 1:9.0 15:7.0 1:9.0 2E:7.0 5:6.0 1:6.1 G:6.0 "
  ++ "1:6.1 3:6.0 1:6.1 1:6.0 1:6.1 1:6.0 1:6.1 1:6.0 1:6.1 3:6.0 1:6.1 6:6.0 2:6.1 4:6.0 1:6.1 1:6.0 "
  ++ "2:6.1 4:6.0 1:6.1 C:6.0 2:7.0 2:8.0 B:6.0 1C:7.0 1Y:6.0 A:7.0 1:8.0 2:9.0 2:10.0 1:12.0 2:13.0 "
  ++ "4:NA 1:15.0 3:14.0 D:7.0 3:NA 4:7.0 3:9.0 2:10.0 1:11.0 1:12.0 2:13.0 3:NA 38:6.0 3:15.0 4:NA "
  ++ "5:15.0 2D:7.0 4:11.0 1:15.0 6:NA C:12.0 4:NA 1:14.0 F:NA C:7.0 4:NA 1K:7.0 8:NA A:7.0 6:NA "
  ++ "14:7.0 8:NA U:7.0 2:NA 2:13.0 A:16.0 4:NA 2:16.0 1Q:NA C:10.0 1:13.0 3:12.0 9:8.0 6:9.0 1:10.0 "
  ++ "8:9.0 8:10.0 1:9.0 2:10.0 C:9.0 1:12.0 C:9.0 1:10.0 3:11.0 F:9.0 D:10.0 5:11.0 1:12.0 1:13.0 "
  ++ "4:11.0 2:13.0 1:14.0 1:11.0 1:12.0 4:11.0 5:8.0 D:9.0 6:10.0 B:11.0 2:13.0 6:12.0 3:13.0 2:12.0 "
  ++ "A:11.0 6:12.0 1:8.0 2:11.0 8:12.0 1:13.0 1:14.0 3:12.0 N:10.0 P:11.0 2C:12.0 C:NA E:11.0 2:NA "
  ++ "4:12.0 1:13.0 3:15.0 3:12.0 2:14.0 3:NA 3:12.0 4:13.0 2:15.0 1:16.0 5:NA 1:16.0 6:12.0 J:13.0 "
  ++ "4:14.0 3:15.0 7:13.0 4:14.0 3:15.0 1:16.0 1:15.0 3:13.0 3:14.0 1:16.0 7:NA 2:15.0 7:13.0 3:14.0 "
  ++ "2:15.0 1:16.0 2:NA 1:16.0 8:14.0 1:15.0 1:16.0 6:NA 7:14.0 2:15.0 7:NA 43:13.0 1:NA 1J:13.0 "
  ++ "11:16.0 A:13.0 SK:NA 2:2.0 WYF:3.1 7:13.0 2:14.0 W:NA 379:5.2 4:14.0 1:15.0 6:NA 66:6.0 2:NA "
  ++ "4G2:8.0 E:NA 5RL:10.0 F:NA HA:15.1 1WI:NA F2:3.1 15S:NA 2:2.0 3T7:13.0 5:NA 38G:15.0 17IM:NA "
  ++ "2:2.0 1EKE:NA 2:2.0 1EKE:NA 2:2.0 1EKE:NA 2:2.0 1EKE:NA 2:2.0 1EKE:NA 2:2.0 1EKE:NA 2:2.0 "
  ++ "1EKE:NA 2:2.0 1EKE:NA 2:2.0 1EKE:NA 2:2.0 1EKE:NA 2:2.0 1:NA 1:3.1 U:NA 2O:3.1 3K:NA 6O:4.0 "
  ++ "1E6M:NA 2T4Y:2.0"

def ageRuns : Array (Nat × String) := decodeRuns ageText

def assignedBy (version : String) : Ranges :=
  let upTo := (versions.takeWhile (· != version)) ++ [version]
  runsWhere ageRuns (fun v => upTo.contains v)

end Unicode

end MonitorWire
