import ExpiringCache.Json.Number
import ExpiringCache.Json.StringText

/-!
# Lexemes

A JSON text as a list of lexemes.  What is wrong with a number or a string may
depend on what is asked for, so these carry both readings: `strict` where the
value is wanted, `whole` where any value will do.  The list ends at a lexeme
whose end cannot be found.
-/

namespace ExpiringCache.Json

inductive Word where
  | null
  | boolean (value : Bool)
  deriving DecidableEq, Repr

inductive Lexeme where
  | openBrace
  | closeBrace
  | openBracket
  | closeBracket
  | comma
  | colon
  | word (word : Except Refusal Word)
  | number (strict : Except Refusal Number) (whole : Except Refusal Unit)
  | string (strict : Except Refusal String) (whole : Except Refusal Unit)
  /-- A symbol that starts no lexeme. -/
  | stray

namespace Lexeme

def spells : List Char → List Symbol → Except Refusal Unit
  | [], _ => .ok ()
  | _ :: _, [] => .error .ended
  | letter :: letters, symbol :: rest =>
      if symbol = some letter then spells letters rest else .error .malformed

def ofWord (word : Word) (letters : String) (rest : List Symbol) : Lexeme × Option Nat :=
  match spells letters.toList rest with
  | .ok () => (.word (.ok word), some letters.length)
  | .error refusal => (.word (.error refusal), none)

def isBlank (char : Char) : Bool :=
  char = ' ' ∨ char = '\n' ∨ char = '\t' ∨ char = '\r'

/--
The lexeme that starts with a character, with the number of further symbols it
takes; none for these if its end cannot be found.
-/
def front (char : Char) (rest : List Symbol) : Lexeme × Option Nat :=
  if char = '\x7b' then (.openBrace, some 0)
  else if char = '\x7d' then (.closeBrace, some 0)
  else if char = '[' then (.openBracket, some 0)
  else if char = ']' then (.closeBracket, some 0)
  else if char = ',' then (.comma, some 0)
  else if char = ':' then (.colon, some 0)
  else if char = 'n' then ofWord .null "ull" rest
  else if char = 't' then ofWord (.boolean true) "rue" rest
  else if char = 'f' then ofWord (.boolean false) "alse" rest
  else if char = '"' then
    let size := stringSize rest
    (.string (readString rest) (size.map fun _ => ()), size.toOption)
  else if char = '-' ∨ char.isDigit then
    let size := Number.size (some char :: rest)
    (.number (Number.read (some char :: rest)) (size.map fun _ => ()),
      size.toOption.map (· - 1))
  else (.stray, none)

/-- The lexemes of a text, after passing over the rest of a lexeme already read. -/
def scanFrom (pass : Nat) : List Symbol → List Lexeme
  | [] => []
  | symbol :: rest =>
      match pass, symbol with
      | more + 1, _ => scanFrom more rest
      | 0, none => [.stray]
      | 0, some char =>
          if isBlank char then scanFrom 0 rest
          else
            match front char rest with
            | (lexeme, some size) => lexeme :: scanFrom size rest
            | (lexeme, none) => [lexeme]

def scan (text : List Symbol) : List Lexeme := scanFrom 0 text

/-- The refusal of a lexeme where a value of another type is asked for. -/
def mismatch : Lexeme → Refusal
  | .openBrace | .openBracket => .unfit
  | .word (.ok _) | .number (.ok _) _ | .string (.ok _) _ => .unfit
  | .word (.error refusal) => refusal
  | .number (.error refusal) _ => refusal
  | .string (.error refusal) _ => refusal
  | _ => .malformed

def asString : Lexeme → Except Refusal String
  | .string strict _ => strict
  | lexeme => .error lexeme.mismatch

def maxInteger : Nat := Nat.pow 2 63 - 1

/-- The integer of 64 bits that a lexeme is, or none for null. -/
def asInteger? : Lexeme → Except Refusal (Option Int)
  | .word (.ok .null) => .ok none
  | .number (.ok (.natural value)) _ =>
      if value ≤ maxInteger then .ok (some value) else .error .unfit
  | .number (.ok (.negative magnitude)) _ => .ok (some (-magnitude))
  | lexeme => .error lexeme.mismatch

end Lexeme

end ExpiringCache.Json
