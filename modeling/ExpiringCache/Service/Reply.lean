import ExpiringCache.Decimal
import ExpiringCache.Json.StringText
import ExpiringCache.Counters

/-!
# Replies

The bodies that the service answers with, and their JSON text: members in a
fixed order, without blanks.
-/

namespace ExpiringCache

inductive ReplyValue where
  | text (text : String)
  | number (number : Nat)
  /-- A share between zero and one. -/
  | share (share : Float)

inductive Reply where
  /-- A stored pair, with the time it has left unless it never expires. -/
  | found (key value : String) (remainingMillis : Option Nat)
  | stored (key : String)
  | deleted (key : String)
  | stats (counters : Counters) (entries : Nat)
  | health (timestamp : String)
  | error (message : String)

namespace ReplyValue

def render : ReplyValue → List Char
  | .text content => Json.quote content
  | .number value => Nat.toDigits 10 value
  | .share value => (Decimal.render value).toList

end ReplyValue

namespace Reply

def members : Reply → List (String × ReplyValue)
  | .found key value remainingMillis =>
      [("key", .text key), ("value", .text value)] ++
        (remainingMillis.map fun millis => ("ttl_remaining_ms", .number millis)).toList
  | .stored key =>
      [("message", .text ("Key '" ++ key ++ "' set successfully")), ("key", .text key)]
  | .deleted key =>
      [("message", .text ("Key '" ++ key ++ "' deleted successfully")), ("key", .text key)]
  | .stats counters entries =>
      [("inserted", .number counters.inserted), ("retrieved", .number counters.retrieved),
        ("hits", .number counters.hits), ("misses", .number counters.misses),
        ("evicted", .number counters.evicted), ("total_entries", .number entries),
        ("hit_rate", .share counters.hitRate)]
  | .health timestamp => [("status", .text "healthy"), ("timestamp", .text timestamp)]
  | .error message => [("error", .text message)]

def renderMember (member : String × ReplyValue) : List Char :=
  Json.quote member.1 ++ ':' :: member.2.render

def chars (reply : Reply) : List Char :=
  '\x7b' :: List.intercalate [','] (reply.members.map renderMember) ++ ['\x7d']

def render (reply : Reply) : String := String.ofList reply.chars

end Reply

end ExpiringCache
