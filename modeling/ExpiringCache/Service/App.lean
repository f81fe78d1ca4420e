import ExpiringCache.Cache.Run
import ExpiringCache.Service.Settings
import ExpiringCache.Service.MediaType
import ExpiringCache.Service.ServiceError
import ExpiringCache.Service.WriteRequest
import ExpiringCache.Service.Target

/-!
# Application

A cache of texts behind an HTTP interface.
-/

namespace ExpiringCache

structure HttpRequest where
  method : String
  target : String
  contentType : Option String := none
  body : List UInt8 := []

/-- A response; headers are given by their lower-case names. -/
structure HttpResponse where
  status : Nat
  reply : Option Reply := none
  headers : List (String × String) := []

namespace HttpResponse

/-- The value of a header; the case of its name does not matter. -/
def header? (response : HttpResponse) (name : String) : Option String :=
  response.headers.lookup name.toLower

def json (status : Nat) (reply : Reply) : HttpResponse where
  status := status
  reply := some reply
  headers := [
    ("content-type", "application/json"),
    ("content-length", toString reply.render.utf8ByteSize)]

def bare (status : Nat) (headers : List (String × String) := []) : HttpResponse where
  status := status
  headers := ("content-length", "0") :: headers

/-- A request that is turned away before the service looks at it, with an explanation. -/
def rejection (status : Nat) : HttpResponse where
  status := status
  headers := [("content-type", "text/plain; charset=utf-8")]

def error (error : ServiceError) : HttpResponse := json error.status error.reply

end HttpResponse

abbrev TextCache := Cache String String Empty

namespace App

/--
The cache that a configuration describes.  The service also has every evicted key
put into its log, which nothing reads, so that handler is left out.
-/
def cacheOf (clock : Clock) (settings : Settings) : TextCache :=
  Cache.create clock (some settings.sharedLifetime) settings.skipRenewal {}

def perform (call : Call String String Empty) (cache : TextCache) :
    TextCache × Except Fault (Answer String String) :=
  cache.perform (fun handler => nomatch handler) 0 call

def put (cache : TextCache) (request : WriteRequest) : TextCache × HttpResponse :=
  match request.objection? with
  | some objection => (cache, .error (.invalidRequest objection.message))
  | none =>
      match perform (.set request.key request.value request.lifetime) cache with
      | (reached, .ok _) => (reached, .json 200 (.stored request.key))
      | (reached, .error _) => (reached, .bare 500)

/-- The most milliseconds a reply can show. -/
def maxMillis : Nat := Nat.pow 2 64 - 1

def get (cache : TextCache) (key : String) : TextCache × HttpResponse :=
  match perform (.getLease key) cache with
  | (reached, .ok (.lease (some (value, remaining)))) =>
      (reached, .json 200
        (.found key value (remaining.map fun left => min left.millis maxMillis)))
  | (reached, .ok _) => (reached, .error (.notFound key))
  | (reached, .error _) => (reached, .bare 500)

def delete (cache : TextCache) (key : String) : TextCache × HttpResponse :=
  match perform (.remove key) cache with
  | (reached, .ok (.flag true)) => (reached, .json 200 (.deleted key))
  | (reached, .ok _) => (reached, .error (.notFound key))
  | (reached, .error _) => (reached, .bare 500)

def stats (cache : TextCache) : HttpResponse :=
  .json 200 (.stats cache.store.counters cache.store.count)

def maxBodyBytes : Nat := 2097152

/-- The status with which a body that is no request is turned away. -/
def refusalStatus : Json.Refusal → Nat
  | .ended => 400
  | .malformed => 400
  | .unfit => 422

def receive (cache : TextCache) (request : HttpRequest) : TextCache × HttpResponse :=
  if !request.contentType.any MediaType.isJson then (cache, .rejection 415)
  else if maxBodyBytes < request.body.length then (cache, .rejection 413)
  else
    match WriteRequest.ofBody request.body with
    | .ok decoded => put cache decoded
    | .error refusal => (cache, .rejection (refusalStatus refusal))

def withKey (cache : TextCache) (encodedKey : String)
    (act : TextCache → String → TextCache × HttpResponse) : TextCache × HttpResponse :=
  match Target.key? encodedKey with
  | some key => act cache key
  | none => (cache, .rejection 400)

def allowed : Resource → String
  | .set => "PUT"
  | .get _ => "GET,HEAD"
  | .del _ => "DELETE"
  | .stats => "GET,HEAD"
  | .health => "GET,HEAD"

def allowHeader (resource : Resource) : String × String := ("allow", allowed resource)

/-- Answers a request for a resource; reading a resource by `HEAD` is like `GET`. -/
def answer (timestamp : String) (cache : TextCache) (resource : Resource)
    (request : HttpRequest) : TextCache × HttpResponse :=
  let reads := request.method = "GET" ∨ request.method = "HEAD"
  match resource with
  | .set => if request.method = "PUT" then receive cache request else refused
  | .get key => if reads then withKey cache key get else refused
  | .del key => if request.method = "DELETE" then withKey cache key delete else refused
  | .stats => if reads then (cache, stats cache) else refused
  | .health => if reads then (cache, .json 200 (.health timestamp)) else refused
where
  refused : TextCache × HttpResponse := (cache, .bare 405 [allowHeader resource])

/-- What every response tells a browser about other origins. -/
def sharingHeaders : List (String × String) := [
  ("access-control-allow-origin", "*"),
  ("vary", "origin, access-control-request-method, access-control-request-headers")]

/-- What the answer to a question about other origins adds. -/
def preflightHeaders : List (String × String) := [
  ("access-control-allow-methods", "*"), ("access-control-allow-headers", "*")]

/--
The answer to a question about other origins.  It permits everything, whatever
the target is, and names the methods of the target if this is a resource.
-/
def preflight (resource : Option Resource) : HttpResponse :=
  .bare 200 ((resource.map allowHeader).toList ++ preflightHeaders)

/-- The response without its body, which the headers still describe. -/
def withoutBody (response : HttpResponse) : HttpResponse := { response with reply := none }

/-- Answers a request, at a wall-clock time given as text. -/
def handle (timestamp : String) (cache : TextCache) (request : HttpRequest) :
    TextCache × HttpResponse :=
  let target := Target.resource? (Target.path request.target)
  let (reached, response) :=
    if request.method = "OPTIONS" then (cache, preflight target)
    else
      match target with
      | some resource => answer timestamp cache resource request
      | none => (cache, .bare 404)
  let shown := if request.method = "HEAD" then withoutBody response else response
  (reached, { shown with headers := shown.headers ++ sharingHeaders })

end App

end ExpiringCache
