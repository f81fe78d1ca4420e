import ExpiringCache.Json.Refusal
import ExpiringCache.Text.Utf8

/-!
# Strings in JSON

Writing a string between quotes, and the two ways of reading one: for its
content, and only for its end.
-/

namespace ExpiringCache.Json

def hexDigit? : Symbol → Option Nat
  | some char =>
      if char.isDigit then some (char.toNat - '0'.toNat)
      else if 'a' ≤ char ∧ char ≤ 'f' then some (char.toNat - 'a'.toNat + 10)
      else if 'A' ≤ char ∧ char ≤ 'F' then some (char.toNat - 'A'.toNat + 10)
      else none
  | none => none

/-- The four digits of a `u` escape.  A text of fewer than four more bytes has ended. -/
def hexUnit (text : List Symbol) : Except Refusal Nat :=
  match (text.take 4).mapM hexDigit? with
  | some [first, second, third, fourth] =>
      .ok (((first * 16 + second) * 16 + third) * 16 + fourth)
  | _ => if Utf8.size text < 4 then .error .ended else .error .malformed

def shortEscape? : Char → Option Char
  | '"' => some '"'
  | '\\' => some '\\'
  | '/' => some '/'
  | 'b' => some '\x08'
  | 'f' => some '\x0c'
  | 'n' => some '\n'
  | 'r' => some '\r'
  | 't' => some '\t'
  | _ => none

/-- The first half of a character beyond 16 bits. -/
def isHighSurrogate (unit : Nat) : Bool := 0xD800 ≤ unit ∧ unit ≤ 0xDBFF

def isLowSurrogate (unit : Nat) : Bool := 0xDC00 ≤ unit ∧ unit ≤ 0xDFFF

/-- The character of a `u` escape, with the size of what follows the letter. -/
def readUnicodeEscape (text : List Symbol) : Except Refusal (Char × Nat) := do
  let high ← hexUnit text
  if isLowSurrogate high then throw .malformed
  else if isHighSurrogate high then
    match text.drop 4 with
    | [] => throw .ended
    | [some '\\'] => throw .ended
    | some '\\' :: some 'u' :: rest =>
        let low ← hexUnit rest
        if isLowSurrogate low then
          return (Char.ofNat (0x10000 + (high - 0xD800) * 0x400 + (low - 0xDC00)), 10)
        else throw .malformed
    | _ => throw .malformed
  else return (Char.ofNat high, 4)

def readEscape : List Symbol → Except Refusal (Char × Nat)
  | [] => .error .ended
  | some 'u' :: rest => (readUnicodeEscape rest).map fun (char, size) => (char, size + 1)
  | some char :: _ =>
      match shortEscape? char with
      | some meant => .ok (meant, 1)
      | none => .error .malformed
  | none :: _ => .error .malformed

/-- The size of an escape after its backslash; halves of characters are let pass. -/
def escapeSize : List Symbol → Except Refusal Nat
  | [] => .error .ended
  | some 'u' :: rest => (hexUnit rest).map fun _ => 5
  | some char :: _ => if (shortEscape? char).isSome then .ok 1 else .error .malformed
  | none :: _ => .error .malformed

/-- Characters that a string may hold only as escapes. -/
def isControl (char : Char) : Bool := char.toNat < 0x20

/--
Reads a string up to its closing quote.  `pass` symbols belong to an escape
already read, `read` holds the characters so far, the last first, and `sound`
tells that all of them were characters.
-/
def readStringFrom (pass : Nat) (read : List Char) (sound : Bool) :
    List Symbol → Except Refusal String
  | [] => .error .ended
  | symbol :: rest =>
      match pass, symbol with
      | more + 1, _ => readStringFrom more read sound rest
      | 0, none => readStringFrom 0 read false rest
      | 0, some char =>
          if char = '"' then
            if sound then .ok (String.ofList read.reverse) else .error .malformed
          else if char = '\\' then
            match readEscape rest with
            | .ok (meant, size) => readStringFrom size (meant :: read) sound rest
            | .error refusal => .error refusal
          else if isControl char then .error .malformed
          else readStringFrom 0 (char :: read) sound rest

def readString (text : List Symbol) : Except Refusal String :=
  readStringFrom 0 [] true text

def stringSizeFrom (pass count : Nat) : List Symbol → Except Refusal Nat
  | [] => .error .ended
  | symbol :: rest =>
      match pass, symbol with
      | more + 1, _ => stringSizeFrom more (count + 1) rest
      | 0, none => stringSizeFrom 0 (count + 1) rest
      | 0, some char =>
          if char = '"' then .ok (count + 1)
          else if char = '\\' then
            match escapeSize rest with
            | .ok size => stringSizeFrom size (count + 1) rest
            | .error refusal => .error refusal
          else if isControl char then .error .malformed
          else stringSizeFrom 0 (count + 1) rest

/-- The size of a string whose content does not matter, after its opening quote. -/
def stringSize (text : List Symbol) : Except Refusal Nat :=
  stringSizeFrom 0 0 text

def escape (char : Char) : List Char :=
  if char = '"' then ['\\', '"']
  else if char = '\\' then ['\\', '\\']
  else if char = '\x08' then ['\\', 'b']
  else if char = '\t' then ['\\', 't']
  else if char = '\n' then ['\\', 'n']
  else if char = '\x0c' then ['\\', 'f']
  else if char = '\r' then ['\\', 'r']
  else if isControl char then
    ['\\', 'u', '0', '0', Nat.digitChar (char.toNat / 16), Nat.digitChar (char.toNat % 16)]
  else [char]

def quote (text : String) : List Char :=
  '"' :: text.toList.flatMap escape ++ ['"']

end ExpiringCache.Json
