/-!
What can be wrong with a request that arrives, with an address to ask, and with an exchange.
-/
namespace ScriptHost.Http

/-- Why a request that arrives is refused. -/
inductive RequestFault where
  | closedBeforeRequestLine
  | closedInHeaders
  | closedInChunks
  | closedInTrailers
  | closedMidLine
  | headTooLarge
  | headNotUtf8
  | badRequestLine (line : String)
  | badMethod (method : String)
  | unsupportedVersion (version : String)
  | foldedHeader
  | headerWithoutColon (line : String)
  | badHeaderName (name : String)
  | unsupportedTransferCoding (value : String)
  | badContentLength (value : String)
  | bodyTooLarge (length limit : Nat)
  | badChunkSize (size : String)
  | chunksTooLarge (limit : Nat)
  | chunkNotTerminated
  /-- A fault known only by its words. -/
  | reported (text : String)
  deriving DecidableEq, Repr

def RequestFault.message : RequestFault → String
  | .closedBeforeRequestLine => "connection closed before request line"
  | .closedInHeaders => "connection closed inside header block"
  | .closedInChunks => "connection closed inside chunked body"
  | .closedInTrailers => "connection closed inside trailers"
  | .closedMidLine => "connection closed mid-line"
  | .headTooLarge => "header block too large"
  | .headNotUtf8 => "non UTF-8 bytes in request head"
  | .badRequestLine line => s!"bad request line '{line}'"
  | .badMethod method => s!"bad method '{method}'"
  | .unsupportedVersion version => s!"unsupported protocol version '{version}'"
  | .foldedHeader => "obsolete header line folding"
  | .headerWithoutColon line => s!"header line without ':' '{line}'"
  | .badHeaderName name => s!"bad header name '{name}'"
  | .unsupportedTransferCoding value => s!"unsupported transfer encoding '{value}'"
  | .badContentLength value => s!"bad Content-Length '{value}'"
  | .bodyTooLarge length limit => s!"body of {length} bytes exceeds limit of {limit}"
  | .badChunkSize size => s!"bad chunk size '{size}'"
  | .chunksTooLarge limit => s!"chunked body exceeds limit of {limit}"
  | .chunkNotTerminated => "chunk not terminated by CRLF"
  | .reported text => text

/-- Why a text is no absolute address. -/
inductive UrlFault where
  | relative
  | emptyHost
  | badPort
  | badIpv4
  | badIpv6
  | badDomain
  | badInternationalDomain
  deriving DecidableEq, Repr

def UrlFault.message : UrlFault → String
  | .relative => "relative URL without a base"
  | .emptyHost => "empty host"
  | .badPort => "invalid port number"
  | .badIpv4 => "invalid IPv4 address"
  | .badIpv6 => "invalid IPv6 address"
  | .badDomain => "invalid domain character"
  | .badInternationalDomain => "invalid international domain name"

/-- Why an exchange with a server failed. -/
inductive ExchangeFault where
  /-- A header cannot be sent. -/
  | unsendable
  /-- The address is none that can be asked. -/
  | unaskable (url : String)
  /-- No answer could be had. -/
  | unanswered (url : String)
  /-- The body of the answer is cut off or garbled. -/
  | brokenBody
  /-- A fault known only by its words. -/
  | reported (text : String)
  deriving DecidableEq, Repr

def ExchangeFault.message : ExchangeFault → String
  | .unsendable => "builder error"
  | .unaskable url => s!"builder error for url ({url})"
  | .unanswered url => s!"error sending request for url ({url})"
  | .brokenBody => "reading response body: error decoding response body"
  | .reported text => text

end ScriptHost.Http
