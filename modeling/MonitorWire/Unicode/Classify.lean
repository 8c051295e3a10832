import MonitorWire.Unicode.Additions

namespace MonitorWire

namespace Unicode

def isAlphabetic (c : Char) : Bool := Latest.isAlphabetic c.toNat

def isNumeric (c : Char) : Bool := (Latest.categoryOf c.toNat).isNumber

def isAlphanumeric (c : Char) : Bool := isAlphabetic c || isNumeric c

end Unicode

end MonitorWire
