import Arbor.Fault
import Arbor.Http.Target

/-!
# What the client and the framework decide about addresses

Requests reach the service's API through an HTTP client, and the API is served by a web
framework. Both decide things about the addresses of requests that belong to them and not to the
service: which addresses the client refuses before it sends anything and which it cannot carry,
what it sends for an address, whether the framework reads the host a request names, and where it
redirects a request. The HTTP layer takes these decisions as given (`AddressRules`), so what it
does, it does for any client and framework that decide them.
-/

set_option autoImplicit false

namespace Arbor

namespace Http

/-- The decisions about addresses that the HTTP layer takes from the client and the framework. -/
structure AddressRules where
  /-- why the client refuses an address before it sends anything, if it does -/
  refusal? : Text → Option Fault
  /-- why the client cannot carry a request it has written to an address, if it cannot -/
  transportFault? : Text → Option Fault
  /-- what the client sends for an address -/
  target : Text → Target
  /-- whether the framework reads the host a request names -/
  readsHost : List Nat → Bool
  /-- the address the framework redirects to, from the scheme, the host the request named, the
  new path and the request's query -/
  redirectLocation : Text → Text → Text → Option Text → Text
  /-- the scheme a request for an address reaches the framework with -/
  requestScheme : Text → Text
  deriving Inhabited

end Http

end Arbor
