/-!
Settings of a host. Every setting has a standard value.
-/
namespace ScriptHost

/-- Settings of the HTTP client and server. Times are in milliseconds. -/
structure HttpSettings where
  /-- The time that one outgoing request may take. -/
  clientTimeout : Nat := 30000
  /-- The bound on the request line with all headers. -/
  maxHeaderBytes : Nat := 65536
  /-- The bound on the body of a request. -/
  maxBodyBytes : Nat := 16777216
  /-- How often a listener that waits looks whether it was closed. -/
  acceptPoll : Nat := 10
  /-- Whether the environment's proxies are used. -/
  proxyFromEnv : Bool := true
  /-- The time that an incoming request may take to arrive. -/
  requestTimeout : Nat := 30000
  deriving DecidableEq, Repr, Inhabited

/-- Settings of sockets. Times are in milliseconds. -/
structure NetSettings where
  /-- How often a listener that waits looks whether it was closed. -/
  acceptPoll : Nat := 10
  deriving DecidableEq, Repr, Inhabited

/-- All settings. -/
structure Config where
  /-- Where relative paths of programs start, if that is settled. -/
  execRoot : Option String := none
  http : HttpSettings := {}
  net : NetSettings := {}
  deriving DecidableEq, Repr, Inhabited

end ScriptHost
