import MonitorWire.Bytes.Basic

namespace MonitorWire

inductive IoKind where
  | connectionReset
  | timedOut
  | other
  deriving DecidableEq, Repr

/-- A failure reported by the operating system for a connection, with its text. -/
structure IoFailure where
  kind : IoKind
  text : String
  deriving DecidableEq, Repr

inductive ErrorKind where
  | protocol
  | transport
  | serialization
  | auth
  | apiRequest
  | config
  deriving DecidableEq, Repr

inductive ProtocolError where
  | invalidHeader
  | unexpectedFlags (flags : UInt8)
  | largePacketUnsupported
  | oversizedPacket (size : Nat)
  | unexpectedResponse (reply : String)
  | io (failure : IoFailure)
  /-- A connection could not be made or was refused by a layer above the socket. -/
  | transport (reason : String)
  | timeout
  | http (reason : String)
  /-- A payload that is neither bytes, text, an array nor an object. -/
  | unsupportedPayloadType (kind : String)
  | invalidUtf8
  | json (reason : String)
  | compressionFailure
  | decompressionFailure
  | auth (reason : String)
  | unsupportedVersion (feature version : String)
  | apiRequest (code : Int) (message data : String)
  | invalidVersion (text : String)
  | configError (reason : String)
  deriving DecidableEq, Repr

namespace ProtocolError

def hexByte (b : UInt8) : String :=
  "0x" ++ String.ofList (Bytes.byteHex b)

def message : ProtocolError → String
  | invalidHeader => "Unexpected response was received"
  | unexpectedFlags flags => "Unexpected flags were received: " ++ hexByte flags
  | largePacketUnsupported => "Large packet unsupported"
  | oversizedPacket size => s!"Packet too large: {size} bytes"
  | unexpectedResponse reply => "Unexpected response: " ++ reply
  | io failure => "I/O error: " ++ failure.text
  | transport reason => "Transport error: " ++ reason
  | timeout => "Operation timed out"
  | http reason => "HTTP error: " ++ reason
  | unsupportedPayloadType kind => "Unsupported payload type: " ++ kind
  | invalidUtf8 => "Response is not valid UTF-8"
  | json reason => "JSON error: " ++ reason
  | compressionFailure => "Compression failed"
  | decompressionFailure => "Decompression failed"
  | auth reason => "Authentication error: " ++ reason
  | unsupportedVersion feature version =>
    feature ++ " is not supported by Zabbix API version " ++ version
  | apiRequest code message data => s!"API request error ({code}): {message} {data}"
  | invalidVersion text => "Invalid API version: " ++ text
  | configError reason => "Configuration error: " ++ reason

def kind : ProtocolError → ErrorKind
  | invalidHeader | unexpectedFlags _ | largePacketUnsupported | oversizedPacket _
  | unexpectedResponse _ => .protocol
  | io _ | transport _ | timeout | http _ => .transport
  | unsupportedPayloadType _ | invalidUtf8 | json _ | compressionFailure
  | decompressionFailure => .serialization
  | auth _ | unsupportedVersion _ _ => .auth
  | apiRequest _ _ _ => .apiRequest
  | invalidVersion _ | configError _ => .config

end ProtocolError

def notLoggedIn : String := "You're not logged in Zabbix API"

def noCredentials : String := "Either a token or a user and a password must be specified"

end MonitorWire
