/-! # Exchanges that fail without a response -/

namespace InstanceCatalog.Http

inductive FaultKind where
  | connectError
  | readTimeout
  | connectTimeout
  | writeTimeout
  | poolTimeout
  | readError
  | writeError
  | closeError
  | remoteProtocolError
  | localProtocolError
  | proxyError
  | unsupportedProtocol
  | decodingError
  | tooManyRedirects
  | invalidUrl
  | cookieConflict
deriving DecidableEq, Repr

namespace FaultKind

def name : FaultKind → String
  | .connectError => "ConnectError"
  | .readTimeout => "ReadTimeout"
  | .connectTimeout => "ConnectTimeout"
  | .writeTimeout => "WriteTimeout"
  | .poolTimeout => "PoolTimeout"
  | .readError => "ReadError"
  | .writeError => "WriteError"
  | .closeError => "CloseError"
  | .remoteProtocolError => "RemoteProtocolError"
  | .localProtocolError => "LocalProtocolError"
  | .proxyError => "ProxyError"
  | .unsupportedProtocol => "UnsupportedProtocol"
  | .decodingError => "DecodingError"
  | .tooManyRedirects => "TooManyRedirects"
  | .invalidUrl => "InvalidURL"
  | .cookieConflict => "CookieConflict"

/-- Whether the exchange itself failed; the other kinds are mistakes in how it was asked for. -/
def ofExchange : FaultKind → Bool
  | .invalidUrl | .cookieConflict => false
  | _ => true

def all : List FaultKind :=
  [.connectError, .readTimeout, .connectTimeout, .writeTimeout, .poolTimeout, .readError,
    .writeError, .closeError, .remoteProtocolError, .localProtocolError, .proxyError,
    .unsupportedProtocol, .decodingError, .tooManyRedirects, .invalidUrl, .cookieConflict]

def ofName? (s : String) : Option FaultKind := all.find? (·.name == s)

end FaultKind

structure Fault where
  kind : FaultKind
  message : String
deriving DecidableEq, Repr

namespace Fault

/-- Why the exchange failed: the message, or the kind's name when there is none. -/
def reason (f : Fault) : String := if f.message.isEmpty then f.kind.name else f.message

end Fault

end InstanceCatalog.Http
