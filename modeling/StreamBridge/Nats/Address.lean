import StreamBridge.Url.Read

/-! Addresses of NATS servers, as they are written in settings: URLs whose scheme and port may be
left out. Names and passwords in a URL are read over. -/

namespace StreamBridge.Nats

/-- Where a server is to be found. -/
structure Address where
  host : String
  port : Nat
deriving DecidableEq, Repr

/-- Why a text is no address of a server. -/
inductive AddressFault where
  | badScheme (scheme : String)
  | badUrl (fault : Url.Fault)
deriving DecidableEq, Repr

/-- The report of a fault. -/
def AddressFault.message : AddressFault → String
  | .badScheme scheme => "invalid scheme for NATS server URL: " ++ scheme
  | .badUrl fault => "NATS server URL is invalid: " ++ fault.message

namespace Address

/-- The port of a server where none is given. -/
def defaultPort : Nat := 4222

/-- The schemes of addresses that a client connects to. -/
def schemes : List String := ["nats", "tls", "ws", "wss"]

/-- Whether a text has what stands between a scheme and an authority, at any place. -/
def hasMark : List Char → Bool
  | ':' :: '/' :: '/' :: _ => true
  | _ :: rest => hasMark rest
  | [] => false

/-- Reads an address. A text without a mark gets the scheme of a NATS server. -/
def read (text : String) : Except AddressFault Address := do
  let written := if hasMark text.toList then text else "nats://" ++ text
  let url ← (Url.read written).mapError .badUrl
  if schemes.contains url.scheme then return ⟨url.host, url.port.getD defaultPort⟩
  else throw (.badScheme url.scheme)

end Address
end StreamBridge.Nats
