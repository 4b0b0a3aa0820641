import ScriptHost.Error.Io
import ScriptHost.Handle
import ScriptHost.Http.Fault

/-!
Failures of the host services. Each names its cause; the wording is in one place.
-/
namespace ScriptHost

/-- What a handle may stand for. -/
inductive ResourceKind where
  | file
  | socket
  | listener
  | httpListener
  | httpRequest
  deriving DecidableEq, Repr

def ResourceKind.text : ResourceKind → String
  | .file => "file"
  | .socket => "socket"
  | .listener => "listener"
  | .httpListener => "http listener"
  | .httpRequest => "http request"

/-- What an environment may lack. -/
inductive Service where
  | filesystem
  | network
  | http
  | console
  | closures
  /-- A service that the interpreter misses, by its name. -/
  | named (name : String)
  deriving DecidableEq, Repr

def Service.text : Service → String
  | .filesystem => "filesystem"
  | .network => "network"
  | .http => "http"
  | .console => "io"
  | .closures => "closure invoker"
  | .named name => name

/-- Why a service refuses an argument. -/
inductive ArgumentFault where
  | unknownOpenMode (mode : String)
  | negativeLength (length : Int)
  | portOutOfRange (port : Int)
  | statusOutOfRange (status : Int)
  | badHeaderName (name : String)
  | lineBreakInHeader (name : String)
  | badContentLength (value : String)
  | badMethod (method : String)
  | badUrl (url : String) (fault : Http.UrlFault)
  /-- A fault known only by its words. -/
  | reported (text : String)
  deriving DecidableEq, Repr

def ArgumentFault.message : ArgumentFault → String
  | .unknownOpenMode mode => s!"unknown open mode '{mode}'"
  | .negativeLength length => s!"read length must be >= 0, got {length}"
  | .portOutOfRange port => s!"port must be in [0, 65535], got {port}"
  | .statusOutOfRange status => s!"status code must be in [100, 999], got {status}"
  | .badHeaderName name => s!"invalid response header name '{name}'"
  | .lineBreakInHeader name => s!"response header '{name}' contains a line break"
  | .badContentLength value => s!"Content-Length must be a byte count, got '{value}'"
  | .badMethod method => s!"invalid http method '{method}'"
  | .badUrl url fault => s!"invalid url '{url}': {fault.message}"
  | .reported text => text

/-- Why a call of a function of the program failed. -/
inductive CallbackFault where
  /-- A filter function gave something that is no truth value, by its type. -/
  | notBool (typeName : String)
  /-- A fault known only by its words. -/
  | reported (text : String)
  deriving DecidableEq, Repr

def CallbackFault.message : CallbackFault → String
  | .notBool typeName => s!"filter predicate returned {typeName}, expected bool"
  | .reported text => text

/-- A failure of a host service. -/
inductive HostError where
  | invalidArgument (fault : ArgumentFault)
  | invalidHandle (fault : HandleError)
  | notFound (kind : ResourceKind) (id : Nat)
  | closed (kind : ResourceKind) (id : Nat)
  | missingService (service : Service)
  | io (operation : Operation) (cause : IoCause)
  | http (fault : Http.ExchangeFault)
  | malformedRequest (fault : Http.RequestFault)
  | callback (fault : CallbackFault)
  deriving DecidableEq, Repr

namespace HostError

def message : HostError → String
  | .invalidArgument fault => s!"invalid argument: {fault.message}"
  | .invalidHandle fault => s!"invalid handle: {fault.message}"
  | .notFound kind id => s!"{kind.text} handle {id} not found"
  | .closed kind id => s!"{kind.text} handle {id} was closed during the call"
  | .missingService service => s!"{service.text} service is not available"
  | .io operation cause => s!"{operation.text} failed: {cause.message}"
  | .http fault => s!"http request failed: {fault.message}"
  | .malformedRequest fault => s!"malformed http request: {fault.message}"
  | .callback fault => s!"closure call failed: {fault.message}"

/-- Whether the failure is about a handle or a service that is not there. -/
def isResourceError : HostError → Bool
  | .invalidHandle _ | .notFound _ _ | .closed _ _ | .missingService _ => true
  | _ => false

end HostError

end ScriptHost
