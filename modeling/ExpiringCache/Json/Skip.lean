import ExpiringCache.Json.Lexeme

/-!
# Skipping values

Passing over a value of any shape and depth, with the open containers held in
a list.
-/

namespace ExpiringCache.Json

inductive Container where
  | object
  | array
  deriving DecidableEq, Repr

/-- What has to come next while a value is passed over. -/
inductive Expected where
  | value
  /-- A first member or element, or the end of the container. -/
  | first
  | name
  | colon
  /-- A comma, or the end of the container. -/
  | separator
  deriving DecidableEq, Repr

structure Skip where
  /-- The containers that are still open, the innermost first. -/
  containers : List Container := []
  expected : Expected := .value
  deriving DecidableEq, Repr

namespace Skip

/-- The value has been passed over when no container is open and no value is due. -/
def isDone (skip : Skip) : Bool :=
  skip.containers = [] ∧ skip.expected = .separator

def value (containers : List Container) : Lexeme → Except Refusal Skip
  | .openBrace => .ok { containers := .object :: containers, expected := .first }
  | .openBracket => .ok { containers := .array :: containers, expected := .first }
  | .word word => word.map fun _ => { containers, expected := .separator }
  | .number _ whole => whole.map fun _ => { containers, expected := .separator }
  | .string _ whole => whole.map fun _ => { containers, expected := .separator }
  | _ => .error .malformed

def name (containers : List Container) : Lexeme → Except Refusal Skip
  | .string _ whole => whole.map fun _ => { containers, expected := .colon }
  | _ => .error .malformed

def step (skip : Skip) (lexeme : Lexeme) : Except Refusal Skip :=
  match skip.expected, skip.containers, lexeme with
  | .value, containers, lexeme => value containers lexeme
  | .name, containers, lexeme => name containers lexeme
  | .colon, containers, .colon => .ok { containers, expected := .value }
  | .first, .object :: outer, .closeBrace => .ok { containers := outer, expected := .separator }
  | .first, .object :: outer, lexeme => name (.object :: outer) lexeme
  | .first, .array :: outer, .closeBracket =>
      .ok { containers := outer, expected := .separator }
  | .first, .array :: outer, lexeme => value (.array :: outer) lexeme
  | .separator, .object :: outer, .closeBrace =>
      .ok { containers := outer, expected := .separator }
  | .separator, .object :: outer, .comma =>
      .ok { containers := .object :: outer, expected := .name }
  | .separator, .array :: outer, .closeBracket =>
      .ok { containers := outer, expected := .separator }
  | .separator, .array :: outer, .comma =>
      .ok { containers := .array :: outer, expected := .value }
  | _, _, _ => .error .malformed

end Skip

end ExpiringCache.Json
