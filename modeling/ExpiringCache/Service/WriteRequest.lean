import ExpiringCache.Json.Skip
import ExpiringCache.Lifetime

/-!
# Set request

The body of a request to store a pair: a JSON object with the members `key`,
`value` and, if it likes, `ttl`, or an array of these in this order.  Other
members are passed over.  A body is read from left to right, and the first
problem decides on its refusal.
-/

namespace ExpiringCache

open Json (Lexeme Refusal Skip)

structure WriteRequest where
  key : String
  value : String
  /-- Seconds to live; negative for ever, none or zero for the shared lifetime. -/
  ttl : Option Int
  deriving DecidableEq, Repr

namespace WriteRequest

def maxKeyBytes : Nat := 256

/-- The longest lifetime a request may ask for: ten years. -/
def maxSeconds : Nat := 315360000

inductive Objection where
  | emptyKey
  | longKey
  | longLifetime
  deriving DecidableEq, Repr

def Objection.message : Objection → String
  | .emptyKey => "Key cannot be empty"
  | .longKey => s!"Key exceeds maximum length of {maxKeyBytes} bytes"
  | .longLifetime => s!"TTL exceeds maximum of {maxSeconds} seconds"

def objection? (request : WriteRequest) : Option Objection :=
  if request.key.isEmpty then some .emptyKey
  else if maxKeyBytes < request.key.utf8ByteSize then some .longKey
  else if request.ttl.any ((maxSeconds : Int) < ·) then some .longLifetime
  else none

def lifetime (request : WriteRequest) : Lifetime :=
  match request.ttl with
  | none => .inherited
  | some seconds =>
      if seconds = 0 then .inherited
      else if seconds < 0 then .unlimited
      else .lasting (.ofSeconds (min seconds.toNat maxSeconds))

/-!
## Reading

The service leaves this to a library.  A reader that behaves as such a library does
stands in for it where the service is run; what is proved of the service relies only
on the rules in `ExpiringCache.Proofs.Service.JsonLibrary`.
-/

inductive Field where
  | key
  | value
  | ttl
  deriving DecidableEq, Repr

def Field.ofName? (name : String) : Option Field :=
  if name = "key" then some .key
  else if name = "value" then some .value
  else if name = "ttl" then some .ttl
  else none

structure Members where
  key : Option String := none
  value : Option String := none
  ttl : Option (Option Int) := none
  deriving DecidableEq, Repr

namespace Members

def has (members : Members) : Field → Bool
  | .key => members.key.isSome
  | .value => members.value.isSome
  | .ttl => members.ttl.isSome

def put (members : Members) (field : Field) (lexeme : Lexeme) : Except Refusal Members :=
  match field with
  | .key => lexeme.asString.map fun key => { members with key := some key }
  | .value => lexeme.asString.map fun value => { members with value := some value }
  | .ttl => lexeme.asInteger?.map fun ttl => { members with ttl := some ttl }

def request (members : Members) : Except Refusal WriteRequest :=
  match members.key, members.value with
  | some key, some value => .ok { key, value, ttl := members.ttl.getD none }
  | _, _ => .error .unfit

end Members

/-- The element at a place of the array form. -/
def Field.ofPlace? : Nat → Option Field
  | 0 => some .key
  | 1 => some .value
  | 2 => some .ttl
  | _ => none

/-- How far a body has been read. -/
inductive Reader where
  /-- Nothing has been read. -/
  | start
  /-- A first member or the end of the object. -/
  | firstMember
  | name (members : Members)
  /-- The colon after a name; none for a name that is no member of a request. -/
  | colon (members : Members) (field : Option Field)
  | memberValue (members : Members) (field : Field)
  | skipping (members : Members) (skip : Skip)
  /-- A comma or the end of the object. -/
  | memberEnd (members : Members)
  /-- The first element or the end of the array. -/
  | firstElement
  | element (members : Members) (place : Nat)
  /-- A comma or the end of the array. -/
  | elementEnd (members : Members) (place : Nat)
  | finished (request : WriteRequest)

namespace Reader

/-- Reads the name of a member; a member must not come twice. -/
def readName (members : Members) : Lexeme → Except Refusal Reader
  | .string strict _ =>
      match strict.map Field.ofName? with
      | .error refusal => .error refusal
      | .ok (some field) =>
          if members.has field then .error .unfit else .ok (.colon members (some field))
      | .ok none => .ok (.colon members none)
  | _ => .error .malformed

def readElement (members : Members) (place : Nat) (lexeme : Lexeme) : Except Refusal Reader :=
  match Field.ofPlace? place with
  | some field => (members.put field lexeme).map fun members => .elementEnd members (place + 1)
  | none => .error .malformed

/-- The member has been passed over once its value has. -/
def ofSkip (members : Members) (skip : Skip) : Reader :=
  if skip.isDone then .memberEnd members else .skipping members skip

def step (reader : Reader) (lexeme : Lexeme) : Except Refusal Reader :=
  match reader, lexeme with
  | .start, .openBrace => .ok .firstMember
  | .start, .openBracket => .ok .firstElement
  | .start, lexeme => .error lexeme.mismatch
  | .firstMember, .closeBrace => .error .unfit
  | .firstMember, lexeme => readName {} lexeme
  | .name members, lexeme => readName members lexeme
  | .colon members (some field), .colon => .ok (.memberValue members field)
  | .colon members none, .colon => .ok (.skipping members {})
  | .colon _ _, _ => .error .malformed
  | .memberValue members field, lexeme => (members.put field lexeme).map .memberEnd
  | .skipping members skip, lexeme => (skip.step lexeme).map (ofSkip members)
  | .memberEnd members, .comma => .ok (.name members)
  | .memberEnd members, .closeBrace => members.request.map .finished
  | .memberEnd _, _ => .error .malformed
  | .firstElement, .closeBracket => .error .unfit
  | .firstElement, lexeme => readElement {} 0 lexeme
  | .element members place, lexeme => readElement members place lexeme
  | .elementEnd members place, .comma =>
      if (Field.ofPlace? place).isSome then .ok (.element members place) else .error .malformed
  | .elementEnd members _, .closeBracket => members.request.map .finished
  | .elementEnd _ _, _ => .error .malformed
  | .finished _, _ => .error .malformed

/-- Reads lexemes until the request is complete, and returns those that follow. -/
def run : Reader → List Lexeme → Except Refusal (WriteRequest × List Lexeme)
  | .finished request, rest => .ok (request, rest)
  | _, [] => .error .ended
  | reader, lexeme :: rest =>
      match reader.step lexeme with
      | .ok next => next.run rest
      | .error refusal => .error refusal

end Reader

/-- Reads a request from a text that holds nothing else. -/
def ofText (text : String) : Except Refusal WriteRequest :=
  match Reader.start.run (Lexeme.scan (Utf8.symbols text)) with
  | .ok (request, []) => .ok request
  | .ok (_, _ :: _) => .error .malformed
  | .error refusal => .error refusal

/-- Reads a request from the front of a message body. -/
def ofBody (bytes : List UInt8) : Except Refusal WriteRequest :=
  (Reader.start.run (Lexeme.scan (Utf8.decode bytes))).map (·.1)

end WriteRequest

end ExpiringCache
