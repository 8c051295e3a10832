import MonitorWire.Unicode.Table

namespace MonitorWire

namespace Unicode

structure BreakProperty where
  name : String
  values : List (String × String)
  runs : String

def graphemeClusterBreak : BreakProperty where
  name := "Grapheme_Cluster_Break"
  values := [
    ("CN", "Control"), ("CR", "CR"), ("EB", "E_Base"), ("EBG", "E_Base_GAZ"),
    ("EM", "E_Modifier"), ("EX", "Extend"), ("GAZ", "Glue_After_Zwj"), ("L", "L"),
    ("LF", "LF"), ("LV", "LV"), ("LVT", "LVT"), ("PP", "Prepend"),
    ("RI", "Regional_Indicator"), ("SM", "SpacingMark"), ("T", "T"), ("V", "V"),
    ("XX", "Other"), ("ZWJ", "ZWJ")]
  runs :=
    "A:CN 1:LF 2:CN 1:CR I:CN 2N:XX X:CN D:XX 1:CN GI:XX 34:EX 7N:XX 7:EX 7B:XX 19:EX 1:XX 1:EX 1:XX "
    ++ "2:EX 1:XX 2:EX 1:XX 1:EX 1K:XX 6:PP A:XX B:EX 1:XX 1:CN 1A:XX L:EX G:XX 1:EX 2T:XX 7:EX 1:PP "
    ++ "1:XX 6:EX 2:XX 2:EX 1:XX 4:EX X:XX 1:PP 1:XX 1:EX U:XX R:EX 2J:XX B:EX 1M:XX 9:EX 9:XX 1:EX "
    ++ "O:XX 4:EX 1:XX 9:EX 1:XX 3:EX 1:XX 5:EX 17:XX 3:EX 1G:XX 2:PP 5:XX 9:EX 16:XX O:EX 1:PP W:EX "
    ++ "1:SM 1I:XX 1:EX 1:SM 1:EX 1:XX 3:SM 8:EX 4:SM 1:EX 2:SM 1:XX 7:EX A:XX 2:EX T:XX 1:EX 2:SM "
    ++ "1K:XX 1:EX 1:XX 1:EX 2:SM 4:EX 2:XX 2:SM 2:XX 2:SM 1:EX 9:XX 1:EX A:XX 2:EX Q:XX 1:EX 2:XX 2:EX "
    ++ "1:SM 1K:XX 1:EX 1:XX 3:SM 2:EX 4:XX 2:EX 2:XX 3:EX 3:XX 1:EX U:XX 2:EX 3:XX 1:EX B:XX 2:EX 1:SM "
    ++ "1K:XX 1:EX 1:XX 3:SM 5:EX 1:XX 2:EX 1:SM 1:XX 2:SM 1:EX K:XX 2:EX M:XX 6:EX 1:XX 1:EX 2:SM "
    ++ "1K:XX 1:EX 1:XX 2:EX 1:SM 4:EX 2:XX 2:SM 2:XX 2:SM 1:EX 7:XX 3:EX A:XX 2:EX U:XX 1:EX 1N:XX "
    ++ "1:EX 1:SM 1:EX 2:SM 3:XX 3:SM 1:XX 3:SM 1:EX 9:XX 1:EX 14:XX 1:EX 3:SM 1:EX 1J:XX 1:EX 1:XX "
    ++ "3:EX 4:SM 1:XX 3:EX 1:XX 4:EX 7:XX 2:EX B:XX 2:EX T:XX 1:EX 2:SM 1K:XX 1:EX 1:XX 1:SM 2:EX 1:SM "
    ++ "1:EX 2:SM 1:XX 3:EX 1:XX 4:EX 7:XX 2:EX B:XX 2:EX F:XX 1:SM C:XX 2:EX 2:SM 1J:XX 2:EX 1:XX 1:EX "
    ++ "2:SM 4:EX 1:XX 3:SM 1:XX 3:SM 1:EX 1:PP 8:XX 1:EX A:XX 2:EX T:XX 1:EX 2:SM 1Y:XX 1:EX 4:XX 1:EX "
    ++ "2:SM 3:EX 1:XX 1:EX 1:XX 7:SM 1:EX I:XX 2:SM 1P:XX 1:EX 1:XX 1:SM 7:EX C:XX 8:EX 2Q:XX 1:EX "
    ++ "1:XX 1:SM 9:EX B:XX 7:EX 21:XX 2:EX R:XX 1:EX 1:XX 1:EX 1:XX 1:EX 4:XX 2:SM 1D:XX E:EX 1:SM "
    ++ "5:EX 1:XX 2:EX 5:XX B:EX 1:XX 10:EX 9:XX 1:EX 2U:XX 4:EX 1:SM 6:EX 1:XX 2:EX 2:SM 2:EX N:XX "
    ++ "2:SM 2:EX 4:XX 3:EX G:XX 4:EX D:XX 1:EX 1:XX 1:SM 2:EX 6:XX 1:EX F:XX 1:EX 2Q:XX 2O:L 20:V 2G:T "
    ++ "9P:XX 3:EX QA:XX 4:EX S:XX 3:EX T:XX 2:EX U:XX 2:EX 1S:XX 2:EX 1:SM 7:EX 8:SM 1:EX 2:SM B:EX "
    ++ "9:XX 1:EX 19:XX 3:EX 1:CN 1:EX 39:XX 2:EX Y:XX 1:EX 3A:XX 3:EX 4:SM 2:EX 3:SM 4:XX 2:SM 1:EX "
    ++ "6:SM 3:EX 63:XX 2:EX 2:SM 1:EX 1L:XX 1:SM 1:EX 1:SM 7:EX 1:XX 1:EX 1:XX 1:EX 2:XX 8:EX 6:SM "
    ++ "A:EX 2:XX 1:EX 1C:XX V:EX 1D:XX 4:EX 1:SM 1B:XX A:EX 4:SM 3:EX 12:XX 9:EX C:XX 2:EX 1:SM U:XX "
    ++ "1:SM 4:EX 2:SM 6:EX 1K:XX 1:EX 1:SM 2:EX 3:SM 1:EX 1:SM 5:EX 1C:XX 8:SM 8:EX 2:SM 2:EX 48:XX "
    ++ "3:EX 1:XX D:EX 1:SM 7:EX 4:XX 1:EX 6:XX 1:EX 2:XX 1:SM 2:EX 5I:XX 1S:EX EJ:XX 1:CN 1:EX 1:ZWJ "
    ++ "2:CN O:XX 7:CN 1D:XX G:CN 2O:XX X:EX 2DA:XX 3:EX 3X:XX 1:EX 2O:XX W:EX FE:XX 6:EX 2X:XX 2:EX "
    ++ "N9W:XX 4:EX 1:XX A:EX W:XX 2:EX 28:XX 2:EX 7K:XX 1:EX 3:XX 1:EX 4:XX 1:EX N:XX 2:SM 2:EX 1:SM "
    ++ "4:XX 1:EX 2B:XX 2:SM 1E:XX G:SM 2:EX Q:XX I:EX D:XX 1:EX 12:XX 8:EX P:XX B:EX 1:SM 1:EX C:XX "
    ++ "T:L 3:XX 3:EX 1:SM 1B:XX 1:EX 2:SM 4:EX 2:SM 2:EX 2:SM 1:EX 10:XX 1:EX 1V:XX 6:EX 2:SM 2:EX "
    ++ "2:SM 2:EX C:XX 1:EX 8:XX 1:EX 1:SM 1A:XX 1:EX 1F:XX 1:EX 1:XX 3:EX 2:XX 2:EX 5:XX 2:EX 1:XX "
    ++ "1:EX 15:XX 1:SM 2:EX 2:SM 5:XX 1:SM 1:EX 6K:XX 2:SM 1:EX 2:SM 1:EX 2:SM 1:XX 1:SM 1:EX I:XX "
    ++ "1:LV R:LVT 1:LV R:LVT 1:LV R:LVT 1:LV R:LVT 1:LV R:LVT 1:LV R:LVT 1:LV R:LVT 1:LV R:LVT 1:LV "
    ++ "R:LVT 1:LV R:LVT 1:LV R:LVT 1:LV R:LVT 1:LV R:LVT 1:LV R:LVT 1:LV R:LVT 1:LV R:LVT 1:LV R:LVT "
    ++ "1:LV R:LVT 1:LV R:LVT 1:LV R:LVT 1:LV R:LVT 1:LV R:LVT 1:LV R:LVT 1:LV R:LVT 1:LV R:LVT 1:LV "
    ++ "R:LVT 1:LV R:LVT 1:LV R:LVT 1:LV R:LVT 1:LV R:LVT 1:LV R:LVT 1:LV R:LVT 1:LV R:LVT 1:LV R:LVT "
    ++ "1:LV R:LVT 1:LV R:LVT 1:LV R:LVT 1:LV R:LVT 1:LV R:LVT 1:LV R:LVT 1:LV R:LVT 1:LV R:LVT 1:LV "
    ++ "R:LVT 1:LV R:LVT 1:LV R:LVT 1:LV R:LVT 1:LV R:LVT 1:LV R:LVT 1:LV R:LVT 1:LV R:LVT 1:LV R:LVT "
    ++ "1:LV R:LVT 1:LV R:LVT 1:LV R:LVT 1:LV R:LVT 1:LV R:LVT 1:LV R:LVT 1:LV R:LVT 1:LV R:LVT 1:LV "
    ++ "R:LVT 1:LV R:LVT 1:LV R:LVT 1:LV R:LVT 1:LV R:LVT 1:LV R:LVT 1:LV R:LVT 1:LV R:LVT 1:LV R:LVT "
    ++ "1:LV R:LVT 1:LV R:LVT 1:LV R:LVT 1:LV R:LVT 1:LV R:LVT 1:LV R:LVT 1:LV R:LVT 1:LV R:LVT 1:LV "
    ++ "R:LVT 1:LV R:LVT 1:LV R:LVT 1:LV R:LVT 1:LV R:LVT 1:LV R:LVT 1:LV R:LVT 1:LV R:LVT 1:LV R:LVT "
    ++ "1:LV R:LVT 1:LV R:LVT 1:LV R:LVT 1:LV R:LVT 1:LV R:LVT 1:LV R:LVT 1:LV R:LVT 1:LV R:LVT 1:LV "
    ++ "R:LVT 1:LV R:LVT 1:LV R:LVT 1:LV R:LVT 1:LV R:LVT 1:LV R:LVT 1:LV R:LVT 1:LV R:LVT 1:LV R:LVT "
    ++ "1:LV R:LVT 1:LV R:LVT 1:LV R:LVT 1:LV R:LVT 1:LV R:LVT 1:LV R:LVT 1:LV R:LVT 1:LV R:LVT 1:LV "
    ++ "R:LVT 1:LV R:LVT 1:LV R:LVT 1:LV R:LVT 1:LV R:LVT 1:LV R:LVT 1:LV R:LVT 1:LV R:LVT 1:LV R:LVT "
    ++ "1:LV R:LVT 1:LV R:LVT 1:LV R:LVT 1:LV R:LVT 1:LV R:LVT 1:LV R:LVT 1:LV R:LVT 1:LV R:LVT 1:LV "
    ++ "R:LVT 1:LV R:LVT 1:LV R:LVT 1:LV R:LVT 1:LV R:LVT 1:LV R:LVT 1:LV R:LVT 1:LV R:LVT 1:LV R:LVT "
    ++ "1:LV R:LVT 1:LV R:LVT 1:LV R:LVT 1:LV R:LVT 1:LV R:LVT 1:LV R:LVT 1:LV R:LVT 1:LV R:LVT 1:LV "
    ++ "R:LVT 1:LV R:LVT 1:LV R:LVT 1:LV R:LVT 1:LV R:LVT 1:LV R:LVT 1:LV R:LVT 1:LV R:LVT 1:LV R:LVT "
    ++ "1:LV R:LVT 1:LV R:LVT 1:LV R:LVT 1:LV R:LVT 1:LV R:LVT 1:LV R:LVT 1:LV R:LVT 1:LV R:LVT 1:LV "
    ++ "R:LVT 1:LV R:LVT 1:LV R:LVT 1:LV R:LVT 1:LV R:LVT 1:LV R:LVT 1:LV R:LVT 1:LV R:LVT 1:LV R:LVT "
    ++ "1:LV R:LVT 1:LV R:LVT 1:LV R:LVT 1:LV R:LVT 1:LV R:LVT 1:LV R:LVT 1:LV R:LVT 1:LV R:LVT 1:LV "
    ++ "R:LVT 1:LV R:LVT 1:LV R:LVT 1:LV R:LVT 1:LV R:LVT 1:LV R:LVT 1:LV R:LVT 1:LV R:LVT 1:LV R:LVT "
    ++ "1:LV R:LVT 1:LV R:LVT 1:LV R:LVT 1:LV R:LVT 1:LV R:LVT 1:LV R:LVT 1:LV R:LVT 1:LV R:LVT 1:LV "
    ++ "R:LVT 1:LV R:LVT 1:LV R:LVT 1:LV R:LVT 1:LV R:LVT 1:LV R:LVT 1:LV R:LVT 1:LV R:LVT 1:LV R:LVT "
    ++ "1:LV R:LVT 1:LV R:LVT 1:LV R:LVT 1:LV R:LVT 1:LV R:LVT 1:LV R:LVT 1:LV R:LVT 1:LV R:LVT 1:LV "
    ++ "R:LVT 1:LV R:LVT 1:LV R:LVT 1:LV R:LVT 1:LV R:LVT 1:LV R:LVT 1:LV R:LVT 1:LV R:LVT 1:LV R:LVT "
    ++ "1:LV R:LVT 1:LV R:LVT 1:LV R:LVT 1:LV R:LVT 1:LV R:LVT 1:LV R:LVT 1:LV R:LVT 1:LV R:LVT 1:LV "
    ++ "R:LVT 1:LV R:LVT 1:LV R:LVT 1:LV R:LVT 1:LV R:LVT 1:LV R:LVT 1:LV R:LVT 1:LV R:LVT 1:LV R:LVT "
    ++ "1:LV R:LVT 1:LV R:LVT 1:LV R:LVT 1:LV R:LVT 1:LV R:LVT 1:LV R:LVT 1:LV R:LVT 1:LV R:LVT 1:LV "
    ++ "R:LVT 1:LV R:LVT 1:LV R:LVT 1:LV R:LVT 1:LV R:LVT 1:LV R:LVT 1:LV R:LVT 1:LV R:LVT 1:LV R:LVT "
    ++ "1:LV R:LVT 1:LV R:LVT 1:LV R:LVT 1:LV R:LVT 1:LV R:LVT 1:LV R:LVT 1:LV R:LVT 1:LV R:LVT 1:LV "
    ++ "R:LVT 1:LV R:LVT 1:LV R:LVT 1:LV R:LVT 1:LV R:LVT 1:LV R:LVT 1:LV R:LVT 1:LV R:LVT 1:LV R:LVT "
    ++ "1:LV R:LVT 1:LV R:LVT 1:LV R:LVT 1:LV R:LVT 1:LV R:LVT 1:LV R:LVT 1:LV R:LVT 1:LV R:LVT 1:LV "
    ++ "R:LVT 1:LV R:LVT 1:LV R:LVT 1:LV R:LVT 1:LV R:LVT 1:LV R:LVT 1:LV R:LVT 1:LV R:LVT 1:LV R:LVT "
    ++ "1:LV R:LVT 1:LV R:LVT 1:LV R:LVT 1:LV R:LVT 1:LV R:LVT 1:LV R:LVT 1:LV R:LVT 1:LV R:LVT 1:LV "
    ++ "R:LVT 1:LV R:LVT 1:LV R:LVT 1:LV R:LVT 1:LV R:LVT 1:LV R:LVT 1:LV R:LVT 1:LV R:LVT 1:LV R:LVT "
    ++ "1:LV R:LVT 1:LV R:LVT 1:LV R:LVT 1:LV R:LVT 1:LV R:LVT 1:LV R:LVT 1:LV R:LVT 1:LV R:LVT 1:LV "
    ++ "R:LVT 1:LV R:LVT 1:LV R:LVT 1:LV R:LVT 1:LV R:LVT 1:LV R:LVT 1:LV R:LVT 1:LV R:LVT 1:LV R:LVT "
    ++ "1:LV R:LVT 1:LV R:LVT 1:LV R:LVT 1:LV R:LVT 1:LV R:LVT 1:LV R:LVT 1:LV R:LVT 1:LV R:LVT 1:LV "
    ++ "R:LVT 1:LV R:LVT 1:LV R:LVT 1:LV R:LVT 1:LV R:LVT 1:LV R:LVT 1:LV R:LVT 1:LV R:LVT 1:LV R:LVT "
    ++ "1:LV R:LVT 1:LV R:LVT 1:LV R:LVT 1:LV R:LVT 1:LV R:LVT 1:LV R:LVT 1:LV R:LVT 1:LV R:LVT 1:LV "
    ++ "R:LVT 1:LV R:LVT 1:LV R:LVT 1:LV R:LVT 1:LV R:LVT 1:LV R:LVT 1:LV R:LVT 1:LV R:LVT 1:LV R:LVT "
    ++ "1:LV R:LVT 1:LV R:LVT 1:LV R:LVT 1:LV R:LVT 1:LV R:LVT 1:LV R:LVT 1:LV R:LVT 1:LV R:LVT 1:LV "
    ++ "R:LVT 1:LV R:LVT 1:LV R:LVT 1:LV R:LVT 1:LV R:LVT 1:LV R:LVT 1:LV R:LVT 1:LV R:LVT 1:LV R:LVT "
    ++ "1:LV R:LVT 1:LV R:LVT 1:LV R:LVT 1:LV R:LVT 1:LV R:LVT 1:LV R:LVT 1:LV R:LVT 1:LV R:LVT 1:LV "
    ++ "R:LVT 1:LV R:LVT 1:LV R:LVT 1:LV R:LVT 1:LV R:LVT 1:LV R:LVT 1:LV R:LVT 1:LV R:LVT 1:LV R:LVT "
    ++ "1:LV R:LVT 1:LV R:LVT 1:LV R:LVT 1:LV R:LVT 1:LV R:LVT 1:LV R:LVT 1:LV R:LVT 1:LV R:LVT C:XX "
    ++ "N:V 4:XX 1D:T 6XU:XX 1:EX KH:XX G:EX G:XX G:EX 5R:XX 1:CN 4E:XX 2:EX 28:XX C:CN E9:XX 1:EX "
    ++ "6A:XX 1:EX 45:XX 5:EX 1AE:XX 3:EX 1:XX 2:EX 5:XX 4:EX 14:XX 3:EX 4:XX 1:EX 4L:XX 2:EX FX:XX "
    ++ "4:EX 1T:XX 5:EX 8T:XX 2:EX 27:XX 4:EX 1Y:XX B:EX 1D:XX 4:EX 3E:XX 1:SM 1:EX 1:SM 1H:XX F:EX "
    ++ "15:XX 1:EX 2:XX 2:EX A:XX 3:EX 1:SM 19:XX 3:SM 4:EX 2:SM 2:EX 2:XX 1:PP 4:XX 1:EX A:XX 1:PP "
    ++ "1E:XX 3:EX 10:XX 5:EX 1:SM 8:EX G:XX 2:SM 18:XX 1:EX C:XX 2:EX 1:SM 1C:XX 3:SM 9:EX 1:SM 1:EX "
    ++ "1:XX 2:PP 5:XX 4:EX 1:XX 1:SM 1:EX 2K:XX 3:SM 3:EX 2:SM 4:EX 6:XX 1:EX 2:XX 1:EX 4D:XX 1:EX "
    ++ "3:SM 8:EX L:XX 2:EX 2:SM 1J:XX 2:EX 1:XX 1:EX 1:SM 1:EX 4:SM 2:XX 2:SM 2:XX 2:SM 1:EX 9:XX 1:EX "
    ++ "A:XX 2:SM 2:XX 7:EX 3:XX 5:EX 1V:XX 1:EX 2:SM 6:EX 1:XX 1:EX 2:XX 1:EX 1:XX 3:EX 1:SM 1:XX 2:SM "
    ++ "3:EX 1:PP 1:EX E:XX 2:EX 2A:XX 3:SM 8:EX 2:SM 3:EX 1:SM 1:EX N:XX 1:EX 29:XX 1:EX 2:SM 6:EX "
    ++ "1:SM 1:EX 2:SM 1:EX 1:SM 2:EX 1:SM 2:EX 6J:XX 1:EX 2:SM 4:EX 2:XX 4:SM 2:EX 1:SM 2:EX R:XX 2:EX "
    ++ "2A:XX 3:SM 8:EX 2:SM 1:EX 1:SM 2:EX 2Y:XX 1:EX 1:SM 1:EX 2:SM 8:EX 2T:XX 1:EX 1:SM 1:EX 2:XX "
    ++ "4:EX 1:SM 5:EX 74:XX 3:SM 9:EX 1:SM 2:EX 6T:XX 1:EX 5:SM 1:XX 2:SM 2:XX 4:EX 1:PP 1:SM 1:PP "
    ++ "1:SM 1:EX 3X:XX 3:SM 4:EX 2:XX 2:EX 4:SM 1:EX 3:XX 1:SM S:XX A:EX 14:XX 6:EX 1:SM 1:PP 4:EX "
    ++ "8:XX 1:EX 9:XX 6:EX 2:SM 3:EX 14:XX 6:PP D:EX 1:SM 2:EX B9:XX 1:SM 7:EX 1:XX 6:EX 1:SM 1:EX "
    ++ "2A:XX M:EX 1:XX 1:SM 7:EX 1:SM 2:EX 1:SM 2:EX 3E:XX 6:EX 3:XX 1:EX 1:XX 2:EX 1:XX 7:EX 1:PP "
    ++ "1:EX 1U:XX 5:SM 1:XX 2:EX 1:XX 2:SM 1:EX 1:SM 1:EX 9N:XX 2:EX 2:SM 9:XX 2:EX 1:PP 1:SM 1C:XX "
    ++ "2:SM 5:EX 3:XX 2:SM 3:EX N:XX 1:EX 445:XX G:CN 1:EX 6:XX F:EX 8UG:XX C:EX 3:SM 3:EX 1XC:XX 5:EX "
    ++ "1N:XX 7:EX FG:XX 1:V 3:XX 4:V DG:XX 1:EX 1:XX 1J:SM 7:XX 4:EX 29:XX 1:EX B:XX 2:EX F57:XX 2:EX "
    ++ "1:XX 4:CN 3MK:XX 1A:EX 2:XX N:EX F2:XX 5:EX 3:XX 6:EX 8:CN 8:EX 2:XX 7:EX U:XX 4:EX 44:XX 3:EX "
    ++ "1IZ:XX 1J:EX 4:XX 1E:EX 8:XX 1:EX E:XX 1:EX M:XX 5:EX 1:XX F:EX 11S:XX 7:EX 1:XX H:EX 2:XX 7:EX "
    ++ "1:XX 2:EX 1:XX 5:EX 2S:XX 1:EX 4G:XX 7:EX AF:XX 1:EX 1P:XX 4:EX E4:XX 4:EX 72:XX 2:EX KG:XX "
    ++ "7:EX 31:XX 7:EX 1P7:XX Q:RI E3:XX 5:EX GX6O:XX W:CN 2O:EX 3K:CN 6O:EX 2S0:CN 44JK:XX"

def sentenceBreak : BreakProperty where
  name := "Sentence_Break"
  values := [
    ("AT", "ATerm"), ("CL", "Close"), ("CR", "CR"), ("EX", "Extend"),
    ("FO", "Format"), ("LE", "OLetter"), ("LF", "LF"), ("LO", "Lower"),
    ("NU", "Numeric"), ("SC", "SContinue"), ("SE", "Sep"), ("SP", "Sp"),
    ("ST", "STerm"), ("UP", "Upper"), ("XX", "Other")]
  runs :=
    "9:XX 1:SP 1:LF 2:SP 1:CR I:XX 1:SP 1:ST 1:CL 4:XX 3:CL 2:XX 2:SC 1:AT 1:XX A:NU 1:SC 4:XX 1:ST "
    ++ "1:XX Q:UP 1:CL 1:XX 1:CL 3:XX Q:LO 1:CL 1:XX 1:CL 7:XX 1:SE Q:XX 1:SP 9:XX 1:LO 1:CL 1:XX 1:FO "
    ++ "7:XX 1:LO 4:XX 1:LO 1:CL 4:XX N:UP 1:XX 7:UP O:LO 1:XX 8:LO 1:UP 1:LO 1:UP 1:LO 1:UP 1:LO 1:UP "
    ++ "1:LO 1:UP 1:LO 1:UP 1:LO 1:UP 1:LO 1:UP 1:LO 1:UP 1:LO 1:UP 1:LO 1:UP 1:LO 1:UP 1:LO 1:UP 1:LO "
    ++ "1:UP 1:LO 1:UP 1:LO 1:UP 1:LO 1:UP 1:LO 1:UP 1:LO 1:UP 1:LO 1:UP 1:LO 1:UP 1:LO 1:UP 1:LO 1:UP "
    ++ "1:LO 1:UP 1:LO 1:UP 1:LO 1:UP 1:LO 1:UP 1:LO 1:UP 2:LO 1:UP 1:LO 1:UP 1:LO 1:UP 1:LO 1:UP 1:LO "
    ++ "1:UP 1:LO 1:UP 1:LO 1:UP 1:LO 1:UP 2:LO 1:UP 1:LO 1:UP 1:LO 1:UP 1:LO 1:UP 1:LO 1:UP 1:LO 1:UP "
    ++ "1:LO 1:UP 1:LO 1:UP 1:LO 1:UP 1:LO 1:UP 1:LO 1:UP 1:LO 1:UP 1:LO 1:UP 1:LO 1:UP 1:LO 1:UP 1:LO "
    ++ "1:UP 1:LO 1:UP 1:LO 1:UP 1:LO 1:UP 1:LO 1:UP 1:LO 1:UP 1:LO 1:UP 1:LO 1:UP 1:LO 2:UP 1:LO 1:UP "
    ++ "1:LO 1:UP 3:LO 2:UP 1:LO 1:UP 1:LO 2:UP 1:LO 3:UP 2:LO 4:UP 1:LO 2:UP 1:LO 3:UP 3:LO 2:UP 1:LO "
    ++ "2:UP 1:LO 1:UP 1:LO 1:UP 1:LO 2:UP 1:LO 1:UP 2:LO 1:UP 1:LO 2:UP 1:LO 3:UP 1:LO 1:UP 1:LO 2:UP "
    ++ "2:LO 1:LE 1:UP 3:LO 4:LE 2:UP 1:LO 2:UP 1:LO 2:UP 1:LO 1:UP 1:LO 1:UP 1:LO 1:UP 1:LO 1:UP 1:LO "
    ++ "1:UP 1:LO 1:UP 1:LO 1:UP 1:LO 1:UP 2:LO 1:UP 1:LO 1:UP 1:LO 1:UP 1:LO 1:UP 1:LO 1:UP 1:LO 1:UP "
    ++ "1:LO 1:UP 1:LO 1:UP 1:LO 1:UP 2:LO 2:UP 1:LO 1:UP 1:LO 3:UP 1:LO 1:UP 1:LO 1:UP 1:LO 1:UP 1:LO "
    ++ "1:UP 1:LO 1:UP 1:LO 1:UP 1:LO 1:UP 1:LO 1:UP 1:LO 1:UP 1:LO 1:UP 1:LO 1:UP 1:LO 1:UP 1:LO 1:UP "
    ++ "1:LO 1:UP 1:LO 1:UP 1:LO 1:UP 1:LO 1:UP 1:LO 1:UP 1:LO 1:UP 1:LO 1:UP 1:LO 1:UP 1:LO 1:UP 1:LO "
    ++ "1:UP 1:LO 1:UP 1:LO 1:UP 1:LO 1:UP 1:LO 1:UP 1:LO 1:UP 1:LO 1:UP 7:LO 2:UP 1:LO 2:UP 2:LO 1:UP "
    ++ "1:LO 4:UP 1:LO 1:UP 1:LO 1:UP 1:LO 1:UP 1:LO 1:UP 1X:LO 2:LE Z:LO 7:LE 2:LO 4:XX C:LE E:XX 5:LO "
    ++ "7:XX 1:LE 1:XX 1:LE H:XX 34:EX 1:UP 1:LO 1:UP 1:LO 1:LE 1:XX 1:UP 1:LO 2:XX 4:LO 1:XX 1:UP 6:XX "
    ++ "1:UP 1:XX 3:UP 1:XX 1:UP 1:XX 2:UP 1:LO H:UP 1:XX 9:UP Z:LO 1:UP 2:LO 3:UP 3:LO 1:UP 1:LO 1:UP "
    ++ "1:LO 1:UP 1:LO 1:UP 1:LO 1:UP 1:LO 1:UP 1:LO 1:UP 1:LO 1:UP 1:LO 1:UP 1:LO 1:UP 1:LO 1:UP 1:LO "
    ++ "1:UP 5:LO 1:UP 1:LO 1:XX 1:UP 1:LO 2:UP 2:LO 1F:UP 1C:LO 1:UP 1:LO 1:UP 1:LO 1:UP 1:LO 1:UP "
    ++ "1:LO 1:UP 1:LO 1:UP 1:LO 1:UP 1:LO 1:UP 1:LO 1:UP 1:LO 1:UP 1:LO 1:UP 1:LO 1:UP 1:LO 1:UP 1:LO "
    ++ "1:UP 1:LO 1:UP 1:LO 1:UP 1:LO 1:UP 1:LO 1:XX 7:EX 1:UP 1:LO 1:UP 1:LO 1:UP 1:LO 1:UP 1:LO 1:UP "
    ++ "1:LO 1:UP 1:LO 1:UP 1:LO 1:UP 1:LO 1:UP 1:LO 1:UP 1:LO 1:UP 1:LO 1:UP 1:LO 1:UP 1:LO 1:UP 1:LO "
    ++ "1:UP 1:LO 1:UP 1:LO 1:UP 1:LO 1:UP 1:LO 1:UP 1:LO 1:UP 1:LO 1:UP 1:LO 1:UP 1:LO 1:UP 1:LO 1:UP "
    ++ "1:LO 1:UP 1:LO 1:UP 1:LO 1:UP 1:LO 2:UP 1:LO 1:UP 1:LO 1:UP 1:LO 1:UP 1:LO 1:UP 1:LO 1:UP 1:LO "
    ++ "1:UP 2:LO 1:UP 1:LO 1:UP 1:LO 1:UP 1:LO 1:UP 1:LO 1:UP 1:LO 1:UP 1:LO 1:UP 1:LO 1:UP 1:LO 1:UP "
    ++ "1:LO 1:UP 1:LO 1:UP 1:LO 1:UP 1:LO 1:UP 1:LO 1:UP 1:LO 1:UP 1:LO 1:UP 1:LO 1:UP 1:LO 1:UP 1:LO "
    ++ "1:UP 1:LO 1:UP 1:LO 1:UP 1:LO 1:UP 1:LO 1:UP 1:LO 1:UP 1:LO 1:UP 1:LO 1:UP 1:LO 1:UP 1:LO 1:UP "
    ++ "1:LO 1:UP 1:LO 1:UP 1:LO 1:UP 1:LO 1:UP 1:LO 1:UP 1:LO 1:UP 1:LO 1:UP 1:LO 1:UP 1:LO 1:UP 1:LO "
    ++ "1:UP 1:LO 1:UP 1:LO 1:UP 1:LO 1:UP 1:LO 1:UP 1:LO 1:UP 1:LO 1:UP 1:LO 1:UP 1:LO 1:UP 1:LO 1:UP "
    ++ "1:LO 1:UP 1:LO 1:XX 12:UP 2:XX 1:LE 3:XX 1:SC 2:XX 15:LO 1:ST 7:XX 19:EX 1:XX 1:EX 1:XX 2:EX "
    ++ "1:XX 2:EX 1:XX 1:EX 8:XX R:LE 4:XX 5:LE C:XX 6:FO 6:XX 2:SC 2:XX B:EX 1:XX 1:FO 3:ST 17:LE L:EX "
    ++ "A:NU 1:XX 2:NU 1:XX 2:LE 1:EX 2R:LE 1:ST 1:LE 7:EX 1:FO 1:XX 6:EX 2:LE 2:EX 1:XX 4:EX 2:LE A:NU "
    ++ "3:LE 2:XX 1:LE 3:ST C:XX 1:FO 1:LE 1:EX U:LE R:EX 2:XX 2H:LE B:EX 1:LE E:XX A:NU X:LE 9:EX 2:LE "
    ++ "2:XX 1:SC 1:ST 1:LE 2:XX 1:EX 2:XX M:LE 4:EX 1:LE 9:EX 1:LE 3:EX 1:LE 5:EX 9:XX 1:ST 1:XX 1:ST "
    ++ "3:XX 2:ST 1:XX P:LE 3:EX 4:XX B:LE 5:XX O:LE 1:XX 6:LE 1:XX 2:FO 5:XX 9:EX 16:LE O:EX 1:FO X:EX "
    ++ "1I:LE 3:EX 1:LE I:EX 1:LE 7:EX A:LE 2:EX 2:ST A:NU 1:XX G:LE 3:EX 1:XX 8:LE 2:XX 2:LE 2:XX M:LE "
    ++ "1:XX 7:LE 1:XX 1:LE 3:XX 4:LE 2:XX 1:EX 1:LE 7:EX 2:XX 2:EX 2:XX 3:EX 1:LE 8:XX 1:EX 4:XX 2:LE "
    ++ "1:XX 3:LE 2:EX 2:XX A:NU 2:LE A:XX 1:LE 1:XX 1:EX 2:XX 3:EX 1:XX 6:LE 4:XX 2:LE 2:XX M:LE 1:XX "
    ++ "7:LE 1:XX 2:LE 1:XX 2:LE 1:XX 2:LE 2:XX 1:EX 1:XX 5:EX 4:XX 2:EX 2:XX 3:EX 3:XX 1:EX 7:XX 4:LE "
    ++ "1:XX 1:LE 7:XX A:NU 2:EX 3:LE 1:EX B:XX 3:EX 1:XX 9:LE 1:XX 3:LE 1:XX M:LE 1:XX 7:LE 1:XX 2:LE "
    ++ "1:XX 5:LE 2:XX 1:EX 1:LE 8:EX 1:XX 3:EX 1:XX 3:EX 2:XX 1:LE F:XX 2:LE 2:EX 2:XX A:NU 9:XX 1:LE "
    ++ "6:EX 1:XX 3:EX 1:XX 8:LE 2:XX 2:LE 2:XX M:LE 1:XX 7:LE 1:XX 2:LE 1:XX 5:LE 2:XX 1:EX 1:LE 7:EX "
    ++ "2:XX 2:EX 2:XX 3:EX 7:XX 3:EX 4:XX 2:LE 1:XX 3:LE 2:EX 2:XX A:NU 1:XX 1:LE G:XX 1:EX 1:LE 1:XX "
    ++ "6:LE 3:XX 3:LE 1:XX 4:LE 3:XX 2:LE 1:XX 1:LE 1:XX 2:LE 3:XX 2:LE 3:XX 3:LE 3:XX C:LE 4:XX 5:EX "
    ++ "3:XX 3:EX 1:XX 4:EX 2:XX 1:LE 6:XX 1:EX E:XX A:NU G:XX 5:EX 8:LE 1:XX 3:LE 1:XX N:LE 1:XX G:LE "
    ++ "2:XX 1:EX 1:LE 7:EX 1:XX 3:EX 1:XX 4:EX 7:XX 2:EX 1:XX 3:LE 2:XX 1:LE 2:XX 2:LE 2:EX 2:XX A:NU "
    ++ "G:XX 1:LE 3:EX 1:XX 8:LE 1:XX 3:LE 1:XX N:LE 1:XX A:LE 1:XX 5:LE 2:XX 1:EX 1:LE 7:EX 1:XX 3:EX "
    ++ "1:XX 4:EX 7:XX 2:EX 6:XX 2:LE 1:XX 2:LE 2:EX 2:XX A:NU 1:XX 2:LE 1:EX C:XX 4:EX 9:LE 1:XX 3:LE "
    ++ "1:XX 15:LE 2:EX 1:LE 7:EX 1:XX 3:EX 1:XX 4:EX 1:LE 5:XX 3:LE 1:EX 7:XX 3:LE 2:EX 2:XX A:NU A:XX "
    ++ "6:LE 1:XX 3:EX 1:XX I:LE 3:XX O:LE 1:XX 9:LE 1:XX 1:LE 2:XX 7:LE 3:XX 1:EX 4:XX 6:EX 1:XX 1:EX "
    ++ "1:XX 8:EX 6:XX A:NU 2:XX 2:EX D:XX 1C:LE 1:EX 2:LE 7:EX 5:XX 7:LE 8:EX 1:XX A:NU 13:XX 2:LE "
    ++ "1:XX 1:LE 1:XX 5:LE 1:XX O:LE 1:XX 1:LE 1:XX A:LE 1:EX 2:LE 9:EX 1:LE 2:XX 5:LE 1:XX 1:LE 1:XX "
    ++ "7:EX 1:XX A:NU 2:XX 4:LE W:XX 1:LE N:XX 2:EX 6:XX A:NU B:XX 1:EX 1:XX 1:EX 1:XX 1:EX 4:CL 2:EX "
    ++ "8:LE 1:XX 10:LE 4:XX K:EX 1:XX 2:EX 5:LE B:EX 1:XX 10:EX 9:XX 1:EX 1L:XX 17:LE K:EX 1:LE A:NU "
    ++ "2:ST 4:XX 6:LE 4:EX 4:LE 3:EX 1:LE 3:EX 2:LE 7:EX 3:LE 4:EX D:LE C:EX 1:LE 1:EX A:NU 4:EX 2:XX "
    ++ "12:UP 1:XX 1:UP 5:XX 1:UP 2:XX 17:LE 1:XX 1:LO 98:LE 1:XX 4:LE 2:XX 7:LE 1:XX 1:LE 1:XX 4:LE "
    ++ "2:XX 15:LE 1:XX 4:LE 2:XX X:LE 1:XX 4:LE 2:XX 7:LE 1:XX 1:LE 1:XX 4:LE 2:XX F:LE 1:XX 1L:LE "
    ++ "1:XX 4:LE 2:XX 1V:LE 2:XX 3:EX 2:XX 1:ST 4:XX 2:ST N:XX G:LE G:XX 2E:UP 2:XX 6:LO 3:XX H8:LE "
    ++ "1:XX 1:ST H:LE 1:SP Q:LE 2:CL 3:XX 23:LE 3:XX B:LE 7:XX I:LE 4:EX 9:XX J:LE 3:EX 2:ST 9:XX I:LE "
    ++ "2:EX C:XX D:LE 1:XX 3:LE 1:XX 2:EX C:XX 1G:LE W:EX 2:ST 1:XX 1:LE 4:XX 1:LE 1:EX 2:XX A:NU O:XX "
    ++ "1:SC 1:ST 4:XX 1:SC 1:ST 1:XX 3:EX 1:FO 1:EX A:NU 6:XX 2H:LE 7:XX 5:LE 2:EX Y:LE 1:EX 1:LE 5:XX "
    ++ "1Y:LE A:XX V:LE 1:XX C:EX 4:XX C:EX 8:XX 2:ST A:NU U:LE 2:XX 5:LE B:XX 18:LE 4:XX Q:LE 6:XX "
    ++ "A:NU 12:XX N:LE 5:EX 4:XX 1H:LE A:EX 1:XX T:EX 2:XX 1:EX A:NU 6:XX A:NU D:XX 1:LE 4:ST 4:XX "
    ++ "V:EX 1D:XX 5:EX 1B:LE H:EX 8:LE 1:XX 2:ST A:NU 2:ST 2:XX 2:ST B:XX 9:EX 9:XX 3:ST 3:EX U:LE "
    ++ "D:EX 2:LE A:NU 18:LE E:EX C:XX 10:LE K:EX 3:XX 2:ST 3:XX A:NU 3:XX 3:LE A:NU 10:LE 2:ST 9:LO "
    ++ "1:UP 1:LO 5:XX 17:LE 2:XX 3:LE G:XX 3:EX 1:XX L:EX 4:LE 1:EX 6:LE 1:EX 2:LE 3:EX 1:LE 5:XX "
    ++ "5C:LO 1S:EX 1:UP 1:LO 1:UP 1:LO 1:UP 1:LO 1:UP 1:LO 1:UP 1:LO 1:UP 1:LO 1:UP 1:LO 1:UP 1:LO "
    ++ "1:UP 1:LO 1:UP 1:LO 1:UP 1:LO 1:UP 1:LO 1:UP 1:LO 1:UP 1:LO 1:UP 1:LO 1:UP 1:LO 1:UP 1:LO 1:UP "
    ++ "1:LO 1:UP 1:LO 1:UP 1:LO 1:UP 1:LO 1:UP 1:LO 1:UP 1:LO 1:UP 1:LO 1:UP 1:LO 1:UP 1:LO 1:UP 1:LO "
    ++ "1:UP 1:LO 1:UP 1:LO 1:UP 1:LO 1:UP 1:LO 1:UP 1:LO 1:UP 1:LO 1:UP 1:LO 1:UP 1:LO 1:UP 1:LO 1:UP "
    ++ "1:LO 1:UP 1:LO 1:UP 1:LO 1:UP 1:LO 1:UP 1:LO 1:UP 1:LO 1:UP 1:LO 1:UP 1:LO 1:UP 1:LO 1:UP 1:LO "
    ++ "1:UP 1:LO 1:UP 1:LO 1:UP 1:LO 1:UP 1:LO 1:UP 1:LO 1:UP 1:LO 1:UP 1:LO 1:UP 1:LO 1:UP 1:LO 1:UP "
    ++ "1:LO 1:UP 1:LO 1:UP 1:LO 1:UP 1:LO 1:UP 1:LO 1:UP 1:LO 1:UP 1:LO 1:UP 1:LO 1:UP 1:LO 1:UP 1:LO "
    ++ "1:UP 1:LO 1:UP 1:LO 1:UP 1:LO 1:UP 1:LO 1:UP 1:LO 1:UP 1:LO 1:UP 1:LO 1:UP 1:LO 1:UP 1:LO 1:UP "
    ++ "9:LO 1:UP 1:LO 1:UP 1:LO 1:UP 1:LO 1:UP 1:LO 1:UP 1:LO 1:UP 1:LO 1:UP 1:LO 1:UP 1:LO 1:UP 1:LO "
    ++ "1:UP 1:LO 1:UP 1:LO 1:UP 1:LO 1:UP 1:LO 1:UP 1:LO 1:UP 1:LO 1:UP 1:LO 1:UP 1:LO 1:UP 1:LO 1:UP "
    ++ "1:LO 1:UP 1:LO 1:UP 1:LO 1:UP 1:LO 1:UP 1:LO 1:UP 1:LO 1:UP 1:LO 1:UP 1:LO 1:UP 1:LO 1:UP 1:LO "
    ++ "1:UP 1:LO 1:UP 1:LO 1:UP 1:LO 1:UP 1:LO 1:UP 1:LO 1:UP 1:LO 1:UP 1:LO 1:UP 1:LO 1:UP 1:LO 1:UP "
    ++ "1:LO 1:UP 1:LO 1:UP 1:LO 1:UP 1:LO 1:UP 1:LO 1:UP 1:LO 1:UP 1:LO 1:UP 1:LO 1:UP 1:LO 1:UP 1:LO "
    ++ "1:UP 1:LO 1:UP 9:LO 8:UP 6:LO 2:XX 6:UP 2:XX 8:LO 8:UP 8:LO 8:UP 6:LO 2:XX 6:UP 2:XX 8:LO 1:XX "
    ++ "1:UP 1:XX 1:UP 1:XX 1:UP 1:XX 1:UP 8:LO 8:UP E:LO 2:XX 8:LO 8:UP 8:LO 8:UP 8:LO 8:UP 5:LO 1:XX "
    ++ "2:LO 5:UP 1:XX 1:LO 3:XX 3:LO 1:XX 2:LO 5:UP 3:XX 4:LO 2:XX 2:LO 4:UP 4:XX 8:LO 5:UP 5:XX 3:LO "
    ++ "1:XX 2:LO 5:UP 3:XX B:SP 1:FO 2:EX 2:FO 3:XX 2:SC 3:XX 8:CL 4:XX 1:AT 3:XX 2:SE 5:FO 1:SP 9:XX "
    ++ "2:CL 1:XX 2:ST 7:XX 2:CL 3:ST L:XX 1:SP 5:FO 1:XX A:FO 1:XX 1:LO B:XX 2:CL 1:LO D:XX 2:CL 1:XX "
    ++ "D:LO 1F:XX X:EX H:XX 1:UP 4:XX 1:UP 2:XX 1:LO 3:UP 2:LO 3:UP 1:LO 1:XX 1:UP 3:XX 5:UP 6:XX 1:UP "
    ++ "1:XX 1:UP 1:XX 1:UP 1:XX 4:UP 1:XX 1:LO 4:UP 1:LO 4:LE 1:LO 2:XX 2:LO 2:UP 5:XX 1:UP 4:LO 4:XX "
    ++ "1:LO H:XX G:UP G:LO 3:LE 1:UP 1:LO 4:LE AN:XX 4:CL T:XX 2:CL AZ:XX Q:UP Q:LO HD:XX 6:CL 7:XX "
    ++ "E:CL 27:XX 2:CL V:XX A:CL B7:XX M:CL 1R:XX 4:CL W:XX 2:CL EA:XX 1C:UP 1C:LO 1:UP 1:LO 3:UP 2:LO "
    ++ "1:UP 1:LO 1:UP 1:LO 1:UP 1:LO 4:UP 1:LO 1:UP 2:LO 1:UP 8:LO 3:UP 1:LO 1:UP 1:LO 1:UP 1:LO 1:UP "
    ++ "1:LO 1:UP 1:LO 1:UP 1:LO 1:UP 1:LO 1:UP 1:LO 1:UP 1:LO 1:UP 1:LO 1:UP 1:LO 1:UP 1:LO 1:UP 1:LO "
    ++ "1:UP 1:LO 1:UP 1:LO 1:UP 1:LO 1:UP 1:LO 1:UP 1:LO 1:UP 1:LO 1:UP 1:LO 1:UP 1:LO 1:UP 1:LO 1:UP "
    ++ "1:LO 1:UP 1:LO 1:UP 1:LO 1:UP 1:LO 1:UP 1:LO 1:UP 1:LO 1:UP 1:LO 1:UP 1:LO 1:UP 1:LO 1:UP 1:LO "
    ++ "1:UP 1:LO 1:UP 1:LO 1:UP 1:LO 1:UP 1:LO 1:UP 1:LO 1:UP 1:LO 1:UP 1:LO 1:UP 1:LO 1:UP 1:LO 1:UP "
    ++ "1:LO 1:UP 1:LO 1:UP 1:LO 1:UP 1:LO 1:UP 1:LO 1:UP 1:LO 1:UP 1:LO 1:UP 1:LO 1:UP 2:LO 6:XX 1:UP "
    ++ "1:LO 1:UP 1:LO 3:EX 1:UP 1:LO 5:XX 3:ST 4:XX 12:LO 1:XX 1:LO 5:XX 1:LO 2:XX 1K:LE 7:XX 1:LE "
    ++ "F:XX 1:EX N:LE 9:XX 7:LE 1:XX 7:LE 1:XX 7:LE 1:XX 7:LE 1:XX 7:LE 1:XX 7:LE 1:XX 7:LE 1:XX 7:LE "
    ++ "1:XX W:EX E:CL E:XX 2:CL 2:XX A:CL 4:XX 1:ST 1:LE C:XX 1:ST 5:XX 1:CL G:XX 2:ST 8:CL BN:XX 1:SP "
    ++ "1:SC 1:ST 2:XX 3:LE A:CL 2:XX 8:CL 1:XX 3:CL 1:XX 9:LE 6:EX 1:XX 5:LE 2:XX 5:LE 4:XX 2E:LE 2:XX "
    ++ "2:EX 2:XX 3:LE 1:XX 2I:LE 1:XX 4:LE 5:XX 17:LE 1:XX 2M:LE H:XX W:LE 1C:XX G:LE E8:XX 534:LE "
    ++ "1S:XX H3H:LE 1V:XX 1A:LE 1:XX 1:ST 7H:LE 1:XX 2:ST G:LE A:NU 2:LE K:XX 1:UP 1:LO 1:UP 1:LO 1:UP "
    ++ "1:LO 1:UP 1:LO 1:UP 1:LO 1:UP 1:LO 1:UP 1:LO 1:UP 1:LO 1:UP 1:LO 1:UP 1:LO 1:UP 1:LO 1:UP 1:LO "
    ++ "1:UP 1:LO 1:UP 1:LO 1:UP 1:LO 1:UP 1:LO 1:UP 1:LO 1:UP 1:LO 1:UP 1:LO 1:UP 1:LO 1:UP 1:LO 1:UP "
    ++ "1:LO 1:UP 1:LO 1:LE 4:EX 1:XX A:EX 1:XX 1:LE 1:UP 1:LO 1:UP 1:LO 1:UP 1:LO 1:UP 1:LO 1:UP 1:LO "
    ++ "1:UP 1:LO 1:UP 1:LO 1:UP 1:LO 1:UP 1:LO 1:UP 1:LO 1:UP 1:LO 1:UP 1:LO 1:UP 1:LO 1:UP 3:LO 2:EX "
    ++ "28:LE 2:EX 1:XX 1:ST 3:XX 1:ST V:XX 9:LE 2:XX 1:UP 1:LO 1:UP 1:LO 1:UP 1:LO 1:UP 1:LO 1:UP 1:LO "
    ++ "1:UP 1:LO 1:UP 3:LO 1:UP 1:LO 1:UP 1:LO 1:UP 1:LO 1:UP 1:LO 1:UP 1:LO 1:UP 1:LO 1:UP 1:LO 1:UP "
    ++ "1:LO 1:UP 1:LO 1:UP 1:LO 1:UP 1:LO 1:UP 1:LO 1:UP 1:LO 1:UP 1:LO 1:UP 1:LO 1:UP 1:LO 1:UP 1:LO "
    ++ "1:UP 1:LO 1:UP 1:LO 1:UP 1:LO 1:UP 1:LO 1:UP 1:LO 1:UP 1:LO 1:UP 1:LO 1:UP 1:LO 1:UP 1:LO 1:UP "
    ++ "1:LO 1:UP 1:LO 1:UP 1:LO 1:UP 1:LO 1:UP A:LO 1:UP 1:LO 1:UP 1:LO 2:UP 1:LO 1:UP 1:LO 1:UP 1:LO "
    ++ "1:UP 1:LO 1:UP 1:LO 1:LE 2:XX 1:UP 1:LO 1:UP 1:LO 1:LE 1:UP 1:LO 1:UP 3:LO 1:UP 1:LO 1:UP 1:LO "
    ++ "1:UP 1:LO 1:UP 1:LO 1:UP 1:LO 1:UP 1:LO 1:UP 1:LO 1:UP 1:LO 1:UP 1:LO 1:UP 1:LO 5:UP 1:LO 5:UP "
    ++ "1:LO 1:UP 1:LO 1:UP 1:LO 1:UP 1:LO 1:UP 1:LO 1:UP 1:LO 1:UP 1:LO 1:UP 1:LO 4:UP 1:LO 1:UP 1:LO "
    ++ "2:UP 1:LO 2:XX 1:UP 1:LO 1:XX 1:LO 1:XX 1:LO 1:UP 1:LO 1:UP 1:LO 1:UP 1:LO 1:UP L:XX 3:LO 1:UP "
    ++ "1:LO 1:LE 3:LO 7:LE 1:EX 3:LE 1:EX 4:LE 1:EX N:LE 5:EX 4:XX 1:EX J:XX 1G:LE 2:XX 2:ST 8:XX 2:EX "
    ++ "1E:LE I:EX 8:XX 2:ST A:NU 6:XX I:EX 6:LE 3:XX 1:LE 1:XX 2:LE 1:EX A:NU S:LE 8:EX 1:XX 1:ST N:LE "
    ++ "D:EX C:XX T:LE 3:XX 4:EX 1B:LE E:EX 7:XX 2:ST 5:XX 1:LE A:NU 6:XX 5:LE 1:EX A:LE A:NU 5:LE 1:XX "
    ++ "15:LE E:EX 9:XX 3:LE 1:EX 8:LE 2:EX 2:XX A:NU 3:XX 3:ST N:LE 3:XX 1:LE 3:EX 1E:LE 1:EX 1:LE "
    ++ "3:EX 2:LE 2:EX 5:LE 2:EX 1:LE 1:EX 1:LE O:XX 3:LE 2:XX B:LE 5:EX 2:ST 3:LE 2:EX A:XX 6:LE 2:XX "
    ++ "6:LE 2:XX 6:LE 9:XX 7:LE 1:XX 7:LE 1:XX 17:LO 1:XX E:LO 6:XX 28:LO Z:LE 8:EX 1:ST 2:EX 2:XX "
    ++ "A:NU 6:XX 8MC:LE C:XX N:LE 4:XX 1D:LE 6IS:XX A6:LE 2:XX 2Y:LE 12:XX 7:LO C:XX 5:LO 5:XX 1:LE "
    ++ "1:EX A:LE 1:XX D:LE 1:XX 5:LE 1:XX 1:LE 1:XX 2:LE 1:XX 2:LE 1:XX 30:LE X:XX A3:LE 2:CL G:XX "
    ++ "1S:LE 2:XX 1I:LE 14:XX C:LE 4:XX G:EX 2:SC 1:ST 1:SC 1:XX 2:ST 2:CL 7:XX G:EX 1:XX 2:SC 2:XX "
    ++ "G:CL 2:XX 2:CL 7:XX 2:SC 1:AT 2:XX 1:SC 2:ST 1:SC 6:CL 4:XX 1:SC C:XX 5:LE 1:XX 3R:LE 2:XX 1:FO "
    ++ "1:XX 1:ST 6:XX 2:CL 2:XX 2:SC 1:AT 1:XX A:NU 1:SC 4:XX 1:ST 1:XX Q:UP 1:CL 1:XX 1:CL 3:XX Q:LO "
    ++ "1:CL 1:XX 1:CL 1:XX 2:CL 1:ST 2:CL 1:SC 1:XX 1K:LE 2:EX V:LE 3:XX 6:LE 2:XX 6:LE 2:XX 6:LE 2:XX "
    ++ "3:LE S:XX 3:FO 4:XX C:LE 1:XX Q:LE 1:XX J:LE 1:XX 2:LE 1:XX F:LE 2:XX E:LE Y:XX 3F:LE 1X:XX "
    ++ "1H:LE 3S:XX 1:EX 3M:XX T:LE 3:XX 1D:LE F:XX 1:EX V:XX W:LE D:XX U:LE 5:XX 12:LE 5:EX 5:XX U:LE "
    ++ "2:XX 10:LE 4:XX 8:LE 1:XX 5:LE 16:XX 14:UP 14:LO 26:LE 2:XX A:NU 6:XX 10:UP 4:XX 10:LO 4:XX "
    ++ "14:LE 8:XX 1G:LE C:XX B:UP 1:XX F:UP 1:XX 7:UP 1:XX 2:UP 1:XX B:LO 1:XX F:LO 1:XX 7:LO 1:XX "
    ++ "2:LO 3:XX 1G:LE C:XX 8N:LE 9:XX M:LE A:XX 8:LE O:XX 1:LO 2:LE 3:LO 1:XX 16:LO 1:XX 9:LO 1X:XX "
    ++ "6:LE 2:XX 1:LE 1:XX 18:LE 1:XX 2:LE 3:XX 1:LE 2:XX N:LE A:XX N:LE 9:XX V:LE 1T:XX J:LE 1:XX "
    ++ "2:LE A:XX M:LE A:XX Q:LE 1Y:XX 1K:LE 6:XX 2:LE 1S:XX 1:LE 3:EX 1:XX 2:EX 5:XX 4:EX 4:LE 1:XX "
    ++ "3:LE 1:XX T:LE 2:XX 3:EX 4:XX 1:EX M:XX 2:ST 8:XX T:LE 3:XX T:LE Z:XX 8:LE 1:XX S:LE 2:EX P:XX "
    ++ "1I:LE A:XX M:LE A:XX J:LE D:XX I:LE 32:XX 21:LE 1J:XX 1F:UP D:XX 1F:LO D:XX 10:LE 4:EX 8:XX "
    ++ "A:NU 6:XX A:NU 6:LE M:UP 3:XX 5:EX 1:XX 1:LE M:LO 6Y:XX 16:LE 1:XX 2:EX 3:XX 2:LE G:XX 3:LE "
    ++ "1J:XX 4:EX T:LE A:XX 1:LE 8:XX M:LE B:EX 4:XX 5:ST M:XX I:LE 4:EX 4:ST 12:XX L:LE R:XX N:LE "
    ++ "9:XX 3:EX 1H:LE F:EX 2:ST T:XX A:NU 1:EX 2:LE 2:EX 1:LE 9:XX 4:EX 19:LE B:EX 2:XX 1:FO 4:ST "
    ++ "1:EX A:XX 1:FO 2:XX P:LE 7:XX A:NU 6:XX 3:EX 10:LE E:EX 1:XX A:NU 1:XX 3:ST 1:LE 2:EX 1:LE 8:XX "
    ++ "Z:LE 1:EX 2:XX 1:LE 9:XX 3:EX 1C:LE E:EX 4:LE 2:ST 2:XX 4:EX 1:ST 2:EX A:NU 1:LE 1:XX 1:LE 1:XX "
    ++ "2:ST W:XX I:LE 1:XX P:LE C:EX 2:ST 1:XX 2:ST 1:XX 1:EX 2:LE 1:EX 1Q:XX 7:LE 1:XX 1:LE 1:XX 4:LE "
    ++ "1:XX F:LE 1:XX A:LE 1:ST 6:XX 1B:LE C:EX 5:XX A:NU 6:XX 4:EX 1:XX 8:LE 2:XX 2:LE 2:XX M:LE 1:XX "
    ++ "7:LE 1:XX 2:LE 1:XX 5:LE 1:XX 2:EX 1:LE 7:EX 2:XX 2:EX 2:XX 3:EX 2:XX 1:LE 6:XX 1:EX 5:XX 5:LE "
    ++ "2:EX 2:XX 7:EX 3:XX 5:EX B:XX A:LE 1:XX 1:LE 2:XX 1:LE 1:XX 12:LE 1:XX 1:LE 9:EX 1:XX 1:EX 2:XX "
    ++ "1:EX 1:XX 4:EX 1:XX 5:EX 1:LE 1:EX 1:LE 2:ST B:XX 2:EX T:XX 1H:LE I:EX 4:LE 2:ST 3:XX A:NU 4:XX "
    ++ "1:EX 3:LE U:XX 1C:LE K:EX 2:LE 1:XX 1:LE 8:XX A:NU 4M:XX 1B:LE 7:EX 2:XX 9:EX 1:XX 2:ST 5:XX "
    ++ "F:ST 4:LE 2:EX Y:XX 1C:LE H:EX 2:ST 1:XX 1:LE B:XX A:NU 12:XX 17:LE D:EX 1:LE 7:XX A:NU 6:XX "
    ++ "K:NU S:XX R:LE 2:XX F:EX 4:XX A:NU 2:XX 3:ST 1:XX 7:LE 55:XX 18:LE F:EX 2T:XX W:UP W:LO A:NU "
    ++ "L:XX 8:LE 2:XX 1:LE 2:XX 8:LE 1:XX 2:LE 1:XX O:LE 6:EX 1:XX 2:EX 2:XX 4:EX 1:LE 1:EX 1:LE 2:EX "
    ++ "1:ST 1:XX 1:ST 9:XX A:NU 1Y:XX 8:LE 2:XX 13:LE 7:EX 2:XX 7:EX 1:LE 1:XX 1:LE 1:EX R:XX 1:LE "
    ++ "A:EX 14:LE 7:EX 1:LE 4:EX 3:XX 2:ST 3:XX 1:EX 8:XX 1:LE B:EX 1A:LE G:EX 1:XX 2:ST 1:LE I:XX "
    ++ "21:LE 5J:XX X:LE F:XX A:NU 6:XX 9:LE 1:XX 11:LE 8:EX 1:XX 8:EX 1:LE 2:ST D:XX A:NU O:XX U:LE "
    ++ "2:XX M:EX 1:XX E:EX 21:XX 7:LE 1:XX 2:LE 1:XX 12:LE 6:EX 3:XX 1:EX 1:XX 2:EX 1:XX 7:EX 1:LE "
    ++ "1:EX 8:XX A:NU 6:XX 6:LE 1:XX 2:LE 1:XX W:LE 5:EX 1:XX 2:EX 1:XX 5:EX 1:LE 7:XX A:NU 8M:XX J:LE "
    ++ "4:EX 2:ST 7:XX 2:EX 1:LE 1:EX D:LE 1:XX Y:LE 7:EX 3:XX 5:EX 2:ST B:XX A:NU 1:EX 2D:XX 1:LE "
    ++ "27:XX PM:LE 2U:XX 33:LE H:XX 5G:LE 218:XX 2P:LE F:XX TS:LE G:FO 1:EX 6:LE F:EX A:XX 32Z:LE 5:XX "
    ++ "G7:LE 5A1:XX U:LE I:EX A:NU 1C6:XX FT:LE 7:XX V:LE 1:XX A:NU 4:XX 2:ST 27:LE 1:XX A:NU 6:XX "
    ++ "U:LE 2:XX 5:EX 1:ST A:XX 1C:LE 7:EX 2:ST 7:XX 4:LE 1:ST B:XX A:NU 9:XX L:LE 5:XX J:LE C0:XX "
    ++ "19:LE 1:XX 2:ST A:NU 5I:XX W:UP W:LO O:XX 1:ST 2V:XX 23:LE 4:XX 1:EX 1:LE 1J:EX 7:XX 4:EX D:LE "
    ++ "1S:XX 2:LE 1:XX 1:LE 1:EX B:XX 2:EX E:XX 4QG:LE 8:XX YE:LE 15:XX A:LE 6W7:XX 4:LE 1:XX 7:LE "
    ++ "1:XX 2:LE 1:XX 83:LE F:XX 1:LE T:XX 3:LE 2:XX 1:LE E:XX 4:LE 8:XX B0:LE 1S4:XX 2Z:LE 5:XX D:LE "
    ++ "3:XX 9:LE 7:XX A:LE 3:XX 2:EX 1:ST 4:FO 37W:XX A:NU EE:XX 1A:EX 2:XX N:EX F2:XX 5:EX 3:XX 6:EX "
    ++ "8:FO 8:EX 2:XX 7:EX U:XX 4:EX 44:XX 3:EX CB:XX Q:UP Q:LO Q:UP 7:LO 1:XX I:LO Q:UP Q:LO 1:UP "
    ++ "1:XX 2:UP 2:XX 1:UP 2:XX 2:UP 2:XX 4:UP 1:XX 8:UP 4:LO 1:XX 1:LO 1:XX 7:LO 1:XX B:LO Q:UP Q:LO "
    ++ "2:UP 1:XX 4:UP 2:XX 8:UP 1:XX 7:UP 1:XX Q:LO 2:UP 1:XX 4:UP 1:XX 5:UP 1:XX 1:UP 3:XX 7:UP 1:XX "
    ++ "Q:LO Q:UP Q:LO Q:UP Q:LO Q:UP Q:LO Q:UP Q:LO Q:UP Q:LO Q:UP S:LO 2:XX P:UP 1:XX P:LO 1:XX 6:LO "
    ++ "P:UP 1:XX P:LO 1:XX 6:LO P:UP 1:XX P:LO 1:XX 6:LO P:UP 1:XX P:LO 1:XX 6:LO P:UP 1:XX P:LO 1:XX "
    ++ "6:LO 1:UP 1:LO 2:XX 1E:NU E8:XX 1J:EX 4:XX 1E:EX 8:XX 1:EX E:XX 1:EX 3:XX 1:ST I:XX 5:EX 1:XX "
    ++ "F:EX UO:XX A:LO 1:LE K:LO 6:XX 6:LO 5X:XX 7:EX 1:XX H:EX 2:XX 7:EX 1:XX 2:EX 1:XX 5:EX 5:XX "
    ++ "1Q:LO X:XX 1:EX 34:XX 19:LE 3:XX 7:EX 7:LE 2:XX A:NU 4:XX 1:LE 8X:XX U:LE 1:EX H:XX 18:LE 4:EX "
    ++ "A:NU D2:XX S:LE 4:EX A:NU 5Y:XX U:LE 2:EX 1:LE A:NU DH:XX 7:LE 1:XX 4:LE 1:XX 2:LE 1:XX F:LE "
    ++ "1:XX 5H:LE B:XX 7:EX 15:XX Y:UP Y:LO 7:EX 1:LE 4:XX A:NU X2:XX 4:LE 1:XX R:LE 1:XX 2:LE 1:XX "
    ++ "1:LE 2:XX 1:LE 1:XX A:LE 1:XX 4:LE 1:XX 1:LE 1:XX 1:LE 6:XX 1:LE 4:XX 1:LE 1:XX 1:LE 1:XX 1:LE "
    ++ "1:XX 3:LE 1:XX 2:LE 1:XX 1:LE 2:XX 1:LE 1:XX 1:LE 1:XX 1:LE 1:XX 1:LE 1:XX 1:LE 1:XX 2:LE 1:XX "
    ++ "1:LE 2:XX 4:LE 1:XX 7:LE 1:XX 4:LE 1:XX 4:LE 1:XX 1:LE 1:XX A:LE 1:XX H:LE 5:XX 3:LE 1:XX 5:LE "
    ++ "1:XX H:LE HG:XX Q:UP 6:XX Q:UP 6:XX Q:UP Z0:XX 3:CL 12V:XX A:NU SM:XX WYO:LE W:XX 37E:LE 6:XX "
    ++ "66:LE 2:XX 4G2:LE E:XX 5RL:LE F:XX HA:LE 1WI:XX F2:LE 15U:XX 3T7:LE 5:XX 38G:LE F975:XX 1:FO "
    ++ "U:XX 2O:EX 3K:XX 6O:EX 47BK:XX"

def wordBreak : BreakProperty where
  name := "Word_Break"
  values := [
    ("CR", "CR"), ("DQ", "Double_Quote"), ("EB", "E_Base"), ("EBG", "E_Base_GAZ"),
    ("EM", "E_Modifier"), ("EX", "ExtendNumLet"), ("Extend", "Extend"), ("FO", "Format"),
    ("GAZ", "Glue_After_Zwj"), ("HL", "Hebrew_Letter"), ("KA", "Katakana"), ("LE", "ALetter"),
    ("LF", "LF"), ("MB", "MidNumLet"), ("ML", "MidLetter"), ("MN", "MidNum"),
    ("NL", "Newline"), ("NU", "Numeric"), ("RI", "Regional_Indicator"), ("SQ", "Single_Quote"),
    ("WSegSpace", "WSegSpace"), ("XX", "Other"), ("ZWJ", "ZWJ")]
  runs :=
    "A:XX 1:LF 2:NL 1:CR I:XX 1:WSegSpace 1:XX 1:DQ 4:XX 1:SQ 4:XX 1:MN 1:XX 1:MB 1:XX A:NU 1:ML "
    ++ "1:MN 5:XX Q:LE 4:XX 1:EX 1:XX Q:LE A:XX 1:NL 10:XX 1:LE 2:XX 1:FO 7:XX 1:LE 1:XX 1:ML 2:XX 1:LE "
    ++ "5:XX N:LE 1:XX V:LE 1:XX DC:LE 6:XX Y:LE 34:Extend 5:LE 1:XX 2:LE 2:XX 4:LE 1:MN 1:LE 6:XX 1:LE "
    ++ "1:ML 3:LE 1:XX 1:LE 1:XX K:LE 1:XX 2B:LE 1:XX 3V:LE 1:XX 7:Extend 4M:LE 1:XX 12:LE 2:XX 4:LE "
    ++ "1:XX 1:LE 1:ML 15:LE 1:MN 1:LE 6:XX 19:Extend 1:XX 1:Extend 1:XX 2:Extend 1:XX 2:Extend 1:XX "
    ++ "1:Extend 8:XX R:HL 4:XX 4:HL 1:LE 1:ML B:XX 6:FO 6:XX 2:MN 2:XX B:Extend 1:XX 1:FO 3:XX 17:LE "
    ++ "L:Extend A:NU 1:XX 1:NU 1:MN 1:XX 2:LE 1:Extend 2R:LE 1:XX 1:LE 7:Extend 1:FO 1:XX 6:Extend "
    ++ "2:LE 2:Extend 1:XX 4:Extend 2:LE A:NU 3:LE 2:XX 1:LE F:XX 1:FO 1:LE 1:Extend U:LE R:Extend 2:XX "
    ++ "2H:LE B:Extend 1:LE E:XX A:NU X:LE 9:Extend 2:LE 2:XX 1:MN 1:XX 1:LE 2:XX 1:Extend 2:XX M:LE "
    ++ "4:Extend 1:LE 9:Extend 1:LE 3:Extend 1:LE 5:Extend I:XX P:LE 3:Extend 4:XX B:LE 5:XX O:LE 1:XX "
    ++ "6:LE 1:XX 2:FO 5:XX 9:Extend 16:LE O:Extend 1:FO X:Extend 1I:LE 3:Extend 1:LE I:Extend 1:LE "
    ++ "7:Extend A:LE 2:Extend 2:XX A:NU 1:XX G:LE 3:Extend 1:XX 8:LE 2:XX 2:LE 2:XX M:LE 1:XX 7:LE "
    ++ "1:XX 1:LE 3:XX 4:LE 2:XX 1:Extend 1:LE 7:Extend 2:XX 2:Extend 2:XX 3:Extend 1:LE 8:XX 1:Extend "
    ++ "4:XX 2:LE 1:XX 3:LE 2:Extend 2:XX A:NU 2:LE A:XX 1:LE 1:XX 1:Extend 2:XX 3:Extend 1:XX 6:LE "
    ++ "4:XX 2:LE 2:XX M:LE 1:XX 7:LE 1:XX 2:LE 1:XX 2:LE 1:XX 2:LE 2:XX 1:Extend 1:XX 5:Extend 4:XX "
    ++ "2:Extend 2:XX 3:Extend 3:XX 1:Extend 7:XX 4:LE 1:XX 1:LE 7:XX A:NU 2:Extend 3:LE 1:Extend B:XX "
    ++ "3:Extend 1:XX 9:LE 1:XX 3:LE 1:XX M:LE 1:XX 7:LE 1:XX 2:LE 1:XX 5:LE 2:XX 1:Extend 1:LE "
    ++ "8:Extend 1:XX 3:Extend 1:XX 3:Extend 2:XX 1:LE F:XX 2:LE 2:Extend 2:XX A:NU 9:XX 1:LE 6:Extend "
    ++ "1:XX 3:Extend 1:XX 8:LE 2:XX 2:LE 2:XX M:LE 1:XX 7:LE 1:XX 2:LE 1:XX 5:LE 2:XX 1:Extend 1:LE "
    ++ "7:Extend 2:XX 2:Extend 2:XX 3:Extend 7:XX 3:Extend 4:XX 2:LE 1:XX 3:LE 2:Extend 2:XX A:NU 1:XX "
    ++ "1:LE G:XX 1:Extend 1:LE 1:XX 6:LE 3:XX 3:LE 1:XX 4:LE 3:XX 2:LE 1:XX 1:LE 1:XX 2:LE 3:XX 2:LE "
    ++ "3:XX 3:LE 3:XX C:LE 4:XX 5:Extend 3:XX 3:Extend 1:XX 4:Extend 2:XX 1:LE 6:XX 1:Extend E:XX A:NU "
    ++ "G:XX 5:Extend 8:LE 1:XX 3:LE 1:XX N:LE 1:XX G:LE 2:XX 1:Extend 1:LE 7:Extend 1:XX 3:Extend 1:XX "
    ++ "4:Extend 7:XX 2:Extend 1:XX 3:LE 2:XX 1:LE 2:XX 2:LE 2:Extend 2:XX A:NU G:XX 1:LE 3:Extend 1:XX "
    ++ "8:LE 1:XX 3:LE 1:XX N:LE 1:XX A:LE 1:XX 5:LE 2:XX 1:Extend 1:LE 7:Extend 1:XX 3:Extend 1:XX "
    ++ "4:Extend 7:XX 2:Extend 6:XX 2:LE 1:XX 2:LE 2:Extend 2:XX A:NU 1:XX 2:LE 1:Extend C:XX 4:Extend "
    ++ "9:LE 1:XX 3:LE 1:XX 15:LE 2:Extend 1:LE 7:Extend 1:XX 3:Extend 1:XX 4:Extend 1:LE 5:XX 3:LE "
    ++ "1:Extend 7:XX 3:LE 2:Extend 2:XX A:NU A:XX 6:LE 1:XX 3:Extend 1:XX I:LE 3:XX O:LE 1:XX 9:LE "
    ++ "1:XX 1:LE 2:XX 7:LE 3:XX 1:Extend 4:XX 6:Extend 1:XX 1:Extend 1:XX 8:Extend 6:XX A:NU 2:XX "
    ++ "2:Extend 1P:XX 1:Extend 2:XX 7:Extend C:XX 8:Extend 1:XX A:NU 2F:XX 1:Extend 2:XX 9:Extend B:XX "
    ++ "7:Extend 1:XX A:NU 12:XX 1:LE N:XX 2:Extend 6:XX A:NU B:XX 1:Extend 1:XX 1:Extend 1:XX 1:Extend "
    ++ "4:XX 2:Extend 8:LE 1:XX 10:LE 4:XX K:Extend 1:XX 2:Extend 5:LE B:Extend 1:XX 10:Extend 9:XX "
    ++ "1:Extend 2S:XX K:Extend 1:XX A:NU C:XX 4:Extend 4:XX 3:Extend 1:XX 3:Extend 2:XX 7:Extend 3:XX "
    ++ "4:Extend D:XX C:Extend 1:XX 1:Extend A:NU 4:Extend 2:XX 12:LE 1:XX 1:LE 5:XX 1:LE 2:XX 17:LE "
    ++ "1:XX 99:LE 1:XX 4:LE 2:XX 7:LE 1:XX 1:LE 1:XX 4:LE 2:XX 15:LE 1:XX 4:LE 2:XX X:LE 1:XX 4:LE "
    ++ "2:XX 7:LE 1:XX 1:LE 1:XX 4:LE 2:XX F:LE 1:XX 1L:LE 1:XX 4:LE 2:XX 1V:LE 2:XX 3:Extend W:XX G:LE "
    ++ "G:XX 2E:LE 2:XX 6:LE 3:XX H8:LE 2:XX H:LE 1:WSegSpace Q:LE 5:XX 23:LE 3:XX B:LE 7:XX I:LE "
    ++ "4:Extend 9:XX J:LE 3:Extend B:XX I:LE 2:Extend C:XX D:LE 1:XX 3:LE 1:XX 2:Extend 1S:XX W:Extend "
    ++ "9:XX 1:Extend 2:XX A:NU X:XX 3:Extend 1:FO 1:Extend A:NU 6:XX 2H:LE 7:XX 5:LE 2:Extend Y:LE "
    ++ "1:Extend 1:LE 5:XX 1Y:LE A:XX V:LE 1:XX C:Extend 4:XX C:Extend A:XX A:NU 3K:XX A:NU 12:XX N:LE "
    ++ "5:Extend 1L:XX A:Extend 1:XX T:Extend 2:XX 1:Extend A:NU 6:XX A:NU M:XX V:Extend 1D:XX 5:Extend "
    ++ "1B:LE H:Extend 8:LE 3:XX A:NU H:XX 9:Extend C:XX 3:Extend U:LE D:Extend 2:LE A:NU 18:LE "
    ++ "E:Extend C:XX 10:LE K:Extend 8:XX A:NU 3:XX 3:LE A:NU 10:LE 2:XX B:LE 5:XX 17:LE 2:XX 3:LE G:XX "
    ++ "3:Extend 1:XX L:Extend 4:LE 1:Extend 6:LE 1:Extend 2:LE 3:Extend 1:LE 5:XX 5C:LE 1S:Extend "
    ++ "7Q:LE 2:XX 6:LE 2:XX 12:LE 2:XX 6:LE 2:XX 8:LE 1:XX 1:LE 1:XX 1:LE 1:XX 1:LE 1:XX V:LE 2:XX "
    ++ "1H:LE 1:XX 7:LE 1:XX 1:LE 3:XX 3:LE 1:XX 7:LE 3:XX 4:LE 2:XX 6:LE 4:XX D:LE 5:XX 3:LE 1:XX 7:LE "
    ++ "3:XX 7:WSegSpace 1:XX 3:WSegSpace 1:XX 1:Extend 1:ZWJ 2:FO 8:XX 2:MB A:XX 1:MB 2:XX 1:ML 2:NL "
    ++ "5:FO 1:EX F:XX 2:EX 3:XX 1:MN F:XX 1:EX A:XX 1:WSegSpace 5:FO 1:XX A:FO 1:XX 1:LE D:XX 1:LE "
    ++ "G:XX D:LE 1F:XX X:Extend H:XX 1:LE 4:XX 1:LE 2:XX A:LE 1:XX 1:LE 3:XX 5:LE 6:XX 1:LE 1:XX 1:LE "
    ++ "1:XX 1:LE 1:XX 4:LE 1:XX B:LE 2:XX 4:LE 5:XX 5:LE 4:XX 1:LE H:XX 15:LE ML:XX 1G:LE 1EE:XX 6D:LE "
    ++ "6:XX 4:LE 3:Extend 2:LE C:XX 12:LE 1:XX 1:LE 5:XX 1:LE 2:XX 1K:LE 7:XX 1:LE F:XX 1:Extend N:LE "
    ++ "9:XX 7:LE 1:XX 7:LE 1:XX 7:LE 1:XX 7:LE 1:XX 7:LE 1:XX 7:LE 1:XX 7:LE 1:XX 7:LE 1:XX W:Extend "
    ++ "1B:XX 1:LE CW:XX 1:WSegSpace 4:XX 1:LE 10:XX 6:Extend 1:XX 5:KA 5:XX 2:LE 2K:XX 2:Extend 2:KA "
    ++ "3:XX 2J:KA 1:XX 4:KA 5:XX 17:LE 1:XX 2M:LE H:XX W:LE 1C:XX G:KA 5S:XX 1B:KA 1:XX 2G:KA LGO:XX "
    ++ "WD:LE 1V:XX 1A:LE 2:XX 7H:LE 3:XX G:LE A:NU 2:LE K:XX 1B:LE 4:Extend 1:XX A:Extend 1:XX V:LE "
    ++ "2:Extend 28:LE 2:Extend M:XX 5I:LE 2:XX 2:LE 1:XX 1:LE 1:XX 8:LE L:XX G:LE 1:Extend 3:LE "
    ++ "1:Extend 4:LE 1:Extend N:LE 5:Extend 4:XX 1:Extend J:XX 1G:LE C:XX 2:Extend 1E:LE I:Extend A:XX "
    ++ "A:NU 6:XX I:Extend 6:LE 3:XX 1:LE 1:XX 2:LE 1:Extend A:NU S:LE 8:Extend 2:XX N:LE D:Extend C:XX "
    ++ "T:LE 3:XX 4:Extend 1B:LE E:Extend E:XX 1:LE A:NU B:XX 1:Extend A:XX A:NU 6:XX 15:LE E:Extend "
    ++ "9:XX 3:LE 1:Extend 8:LE 2:Extend 2:XX A:NU X:XX 3:Extend 1E:XX 1:Extend 1:XX 3:Extend 2:XX "
    ++ "2:Extend 5:XX 2:Extend 1:XX 1:Extend U:XX B:LE 5:Extend 2:XX 3:LE 2:Extend A:XX 6:LE 2:XX 6:LE "
    ++ "2:XX 6:LE 9:XX 7:LE 1:XX 7:LE 1:XX 1M:LE 6:XX 37:LE 8:Extend 1:XX 2:Extend 2:XX A:NU 6:XX "
    ++ "8MC:LE C:XX N:LE 4:XX 1D:LE 6X0:XX 7:LE C:XX 5:LE 5:XX 1:HL 1:Extend A:HL 1:XX D:HL 1:XX 5:HL "
    ++ "1:XX 1:HL 1:XX 2:HL 1:XX 2:HL 1:XX A:HL 2Q:LE X:XX A3:LE I:XX 1S:LE 2:XX 1I:LE 14:XX C:LE 4:XX "
    ++ "G:Extend 1:MN 2:XX 1:ML 1:MN B:XX G:Extend 3:XX 2:EX O:XX 3:EX 1:MN 1:XX 1:MB 1:XX 1:MN 1:ML "
    ++ "Q:XX 5:LE 1:XX 3R:LE 2:XX 1:FO 7:XX 1:MB 4:XX 1:MN 1:XX 1:MB 1:XX A:NU 1:ML 1:MN 5:XX Q:LE 4:XX "
    ++ "1:EX 1:XX Q:LE B:XX 1K:KA 2:Extend V:LE 3:XX 6:LE 2:XX 6:LE 2:XX 6:LE 2:XX 3:LE S:XX 3:FO 4:XX "
    ++ "C:LE 1:XX Q:LE 1:XX J:LE 1:XX 2:LE 1:XX F:LE 2:XX E:LE Y:XX 3F:LE 1X:XX 1H:LE 3S:XX 1:Extend "
    ++ "3M:XX T:LE 3:XX 1D:LE F:XX 1:Extend V:XX W:LE D:XX U:LE 5:XX 12:LE 5:Extend 5:XX U:LE 2:XX "
    ++ "10:LE 4:XX 8:LE 1:XX 5:LE 16:XX 4E:LE 2:XX A:NU 6:XX 10:LE 4:XX 10:LE 4:XX 14:LE 8:XX 1G:LE "
    ++ "C:XX B:LE 1:XX F:LE 1:XX 7:LE 1:XX 2:LE 1:XX B:LE 1:XX F:LE 1:XX 7:LE 1:XX 2:LE 3:XX 1G:LE C:XX "
    ++ "8N:LE 9:XX M:LE A:XX 8:LE O:XX 6:LE 1:XX 16:LE 1:XX 9:LE 1X:XX 6:LE 2:XX 1:LE 1:XX 18:LE 1:XX "
    ++ "2:LE 3:XX 1:LE 2:XX N:LE A:XX N:LE 9:XX V:LE 1T:XX J:LE 1:XX 2:LE A:XX M:LE A:XX Q:LE 1Y:XX "
    ++ "1K:LE 6:XX 2:LE 1S:XX 1:LE 3:Extend 1:XX 2:Extend 5:XX 4:Extend 4:LE 1:XX 3:LE 1:XX T:LE 2:XX "
    ++ "3:Extend 4:XX 1:Extend W:XX T:LE 3:XX T:LE Z:XX 8:LE 1:XX S:LE 2:Extend P:XX 1I:LE A:XX M:LE "
    ++ "A:XX J:LE D:XX I:LE 32:XX 21:LE 1J:XX 1F:LE D:XX 1F:LE D:XX 10:LE 4:Extend 8:XX A:NU 6:XX A:NU "
    ++ "S:LE 3:XX 5:Extend 1:XX N:LE 6Y:XX 16:LE 1:XX 2:Extend 3:XX 2:LE G:XX 3:LE 1J:XX 4:Extend T:LE "
    ++ "A:XX 1:LE 8:XX M:LE B:Extend V:XX I:LE 4:Extend 16:XX L:LE R:XX N:LE 9:XX 3:Extend 1H:LE "
    ++ "F:Extend V:XX A:NU 1:Extend 2:LE 2:Extend 1:LE 9:XX 4:Extend 19:LE B:Extend 2:XX 1:FO 4:XX "
    ++ "1:Extend A:XX 1:FO 2:XX P:LE 7:XX A:NU 6:XX 3:Extend 10:LE E:Extend 1:XX A:NU 4:XX 1:LE "
    ++ "2:Extend 1:LE 8:XX Z:LE 1:Extend 2:XX 1:LE 9:XX 3:Extend 1C:LE E:Extend 4:LE 4:XX 4:Extend 1:XX "
    ++ "2:Extend A:NU 1:LE 1:XX 1:LE Z:XX I:LE 1:XX P:LE C:Extend 6:XX 1:Extend 2:LE 1:Extend 1Q:XX "
    ++ "7:LE 1:XX 1:LE 1:XX 4:LE 1:XX F:LE 1:XX A:LE 7:XX 1B:LE C:Extend 5:XX A:NU 6:XX 4:Extend 1:XX "
    ++ "8:LE 2:XX 2:LE 2:XX M:LE 1:XX 7:LE 1:XX 2:LE 1:XX 5:LE 1:XX 2:Extend 1:LE 7:Extend 2:XX "
    ++ "2:Extend 2:XX 3:Extend 2:XX 1:LE 6:XX 1:Extend 5:XX 5:LE 2:Extend 2:XX 7:Extend 3:XX 5:Extend "
    ++ "B:XX A:LE 1:XX 1:LE 2:XX 1:LE 1:XX 12:LE 1:XX 1:LE 9:Extend 1:XX 1:Extend 2:XX 1:Extend 1:XX "
    ++ "4:Extend 1:XX 5:Extend 1:LE 1:Extend 1:LE D:XX 2:Extend T:XX 1H:LE I:Extend 4:LE 5:XX A:NU 4:XX "
    ++ "1:Extend 3:LE U:XX 1C:LE K:Extend 2:LE 1:XX 1:LE 8:XX A:NU 4M:XX 1B:LE 7:Extend 2:XX 9:Extend "
    ++ "N:XX 4:LE 2:Extend Y:XX 1C:LE H:Extend 3:XX 1:LE B:XX A:NU 12:XX 17:LE D:Extend 1:LE 7:XX A:NU "
    ++ "6:XX K:NU 1L:XX F:Extend 4:XX A:NU 5I:XX 18:LE F:Extend 2T:XX 1S:LE A:NU L:XX 8:LE 2:XX 1:LE "
    ++ "2:XX 8:LE 1:XX 2:LE 1:XX O:LE 6:Extend 1:XX 2:Extend 2:XX 4:Extend 1:LE 1:Extend 1:LE 2:Extend "
    ++ "C:XX A:NU 1Y:XX 8:LE 2:XX 13:LE 7:Extend 2:XX 7:Extend 1:LE 1:XX 1:LE 1:Extend R:XX 1:LE "
    ++ "A:Extend 14:LE 7:Extend 1:LE 4:Extend 8:XX 1:Extend 8:XX 1:LE B:Extend 1A:LE G:Extend 3:XX 1:LE "
    ++ "I:XX 21:LE 5J:XX X:LE F:XX A:NU 6:XX 9:LE 1:XX 11:LE 8:Extend 1:XX 8:Extend 1:LE F:XX A:NU O:XX "
    ++ "U:LE 2:XX M:Extend 1:XX E:Extend 21:XX 7:LE 1:XX 2:LE 1:XX 12:LE 6:Extend 3:XX 1:Extend 1:XX "
    ++ "2:Extend 1:XX 7:Extend 1:LE 1:Extend 8:XX A:NU 6:XX 6:LE 1:XX 2:LE 1:XX W:LE 5:Extend 1:XX "
    ++ "2:Extend 1:XX 5:Extend 1:LE 7:XX A:NU 8M:XX J:LE 4:Extend 9:XX 2:Extend 1:LE 1:Extend D:LE 1:XX "
    ++ "Y:LE 7:Extend 3:XX 5:Extend D:XX A:NU 1:Extend 2D:XX 1:LE 27:XX PM:LE 2U:XX 33:LE H:XX 5G:LE "
    ++ "218:XX 2P:LE F:XX TS:LE G:FO 1:Extend 6:LE F:Extend A:XX 32Z:LE 5:XX G7:LE 5A1:XX U:LE I:Extend "
    ++ "A:NU 1C6:XX FT:LE 7:XX V:LE 1:XX A:NU 6:XX 27:LE 1:XX A:NU 6:XX U:LE 2:XX 5:Extend B:XX 1C:LE "
    ++ "7:Extend 9:XX 4:LE C:XX A:NU 9:XX L:LE 5:XX J:LE C0:XX 19:LE 3:XX A:NU 5I:XX 1S:LE 3K:XX 23:LE "
    ++ "4:XX 1:Extend 1:LE 1J:Extend 7:XX 4:Extend D:LE 1S:XX 2:LE 1:XX 1:LE 1:Extend B:XX 2:Extend "
    ++ "CN2:XX 4:KA 1:XX 7:KA 1:XX 2:KA 1:XX 1:KA 7Z:XX 3:KA 1E:XX 1:KA E:XX 4:KA 23C:XX 2Z:LE 5:XX "
    ++ "D:LE 3:XX 9:LE 7:XX A:LE 3:XX 2:Extend 1:XX 4:FO 37W:XX A:NU EE:XX 1A:Extend 2:XX N:Extend "
    ++ "F2:XX 5:Extend 3:XX 6:Extend 8:FO 8:Extend 2:XX 7:Extend U:XX 4:Extend 44:XX 3:Extend CB:XX "
    ++ "2D:LE 1:XX 1Z:LE 1:XX 2:LE 2:XX 1:LE 2:XX 2:LE 2:XX 4:LE 1:XX C:LE 1:XX 1:LE 1:XX 7:LE 1:XX "
    ++ "1T:LE 1:XX 4:LE 2:XX 8:LE 1:XX 7:LE 1:XX S:LE 1:XX 4:LE 1:XX 5:LE 1:XX 1:LE 3:XX 7:LE 1:XX "
    ++ "9G:LE 2:XX P:LE 1:XX P:LE 1:XX V:LE 1:XX P:LE 1:XX V:LE 1:XX P:LE 1:XX V:LE 1:XX P:LE 1:XX V:LE "
    ++ "1:XX P:LE 1:XX 8:LE 2:XX 1E:NU E8:XX 1J:Extend 4:XX 1E:Extend 8:XX 1:Extend E:XX 1:Extend M:XX "
    ++ "5:Extend 1:XX F:Extend UO:XX V:LE 6:XX 6:LE 5X:XX 7:Extend 1:XX H:Extend 2:XX 7:Extend 1:XX "
    ++ "2:Extend 1:XX 5:Extend 5:XX 1Q:LE X:XX 1:Extend 34:XX 19:LE 3:XX 7:Extend 7:LE 2:XX A:NU 4:XX "
    ++ "1:LE 8X:XX U:LE 1:Extend H:XX 18:LE 4:Extend A:NU D2:XX S:LE 4:Extend A:NU 5Y:XX U:LE 2:Extend "
    ++ "1:LE A:NU DH:XX 7:LE 1:XX 4:LE 1:XX 2:LE 1:XX F:LE 1:XX 5H:LE B:XX 7:Extend 15:XX 1W:LE "
    ++ "7:Extend 1:LE 4:XX A:NU X2:XX 4:LE 1:XX R:LE 1:XX 2:LE 1:XX 1:LE 2:XX 1:LE 1:XX A:LE 1:XX 4:LE "
    ++ "1:XX 1:LE 1:XX 1:LE 6:XX 1:LE 4:XX 1:LE 1:XX 1:LE 1:XX 1:LE 1:XX 3:LE 1:XX 2:LE 1:XX 1:LE 2:XX "
    ++ "1:LE 1:XX 1:LE 1:XX 1:LE 1:XX 1:LE 1:XX 1:LE 1:XX 2:LE 1:XX 1:LE 2:XX 4:LE 1:XX 7:LE 1:XX 4:LE "
    ++ "1:XX 4:LE 1:XX 1:LE 1:XX A:LE 1:XX H:LE 5:XX 3:LE 1:XX 5:LE 1:XX H:LE HG:XX Q:LE 6:XX Q:LE 6:XX "
    ++ "Q:LE 2K:XX Q:RI E3:XX 5:Extend 1KG:XX A:NU GVLZ:XX 1:FO U:XX 2O:Extend 3K:XX 6O:Extend 47BK:XX"

def breakProperties : List BreakProperty := [graphemeClusterBreak, sentenceBreak, wordBreak]

def BreakProperty.ranges (p : BreakProperty) (short : String) : Ranges :=
  runsWhere (decodeRuns p.runs) (· == short)

end Unicode

end MonitorWire
