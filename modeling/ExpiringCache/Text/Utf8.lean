/-!
# Reading UTF-8

Bytes are read as symbols: characters, and bytes that belong to no character.
A byte below 128 always stands for itself, whatever surrounds it.
-/

namespace ExpiringCache

/-- A character of a text, or none for a byte that belongs to no character. -/
abbrev Symbol := Option Char

namespace Utf8

def width : Symbol → Nat
  | some char => char.utf8Size
  | none => 1

def size : List Symbol → Nat
  | [] => 0
  | symbol :: rest => width symbol + size rest

def continuation? (byte : UInt8) : Option Nat :=
  if 0x80 ≤ byte ∧ byte < 0xC0 then some (byte.toNat - 0x80) else none

/-- The bits of a lead byte, its continuation bytes, and the least code point they may spell. -/
def lead? (byte : UInt8) : Option (Nat × Nat × Nat) :=
  if byte < 0x80 then some (byte.toNat, 0, 0)
  else if byte < 0xC0 then none
  else if byte < 0xE0 then some (byte.toNat - 0xC0, 1, 0x80)
  else if byte < 0xF0 then some (byte.toNat - 0xE0, 2, 0x800)
  else if byte < 0xF8 then some (byte.toNat - 0xF0, 3, 0x10000)
  else none

/-- The character at the front of some bytes, with the number of its continuation bytes. -/
def front? (byte : UInt8) (rest : List UInt8) : Option (Char × Nat) := do
  let (bits, more, least) ← lead? byte
  let continuations ← (rest.take more).mapM continuation?
  let code := continuations.foldl (fun code bits => code * 64 + bits) bits
  if continuations.length = more ∧ least ≤ code ∧ code.isValidChar then
    some (Char.ofNat code, more)
  else none

/-- Reads bytes as symbols, after passing over the bytes of a symbol already read. -/
def decodeFrom (pass : Nat) : List UInt8 → List Symbol
  | [] => []
  | byte :: rest =>
      match pass with
      | more + 1 => decodeFrom more rest
      | 0 =>
          match front? byte rest with
          | some (char, more) => some char :: decodeFrom more rest
          | none => none :: decodeFrom 0 rest

def decode (bytes : List UInt8) : List Symbol := decodeFrom 0 bytes

def symbols (text : String) : List Symbol := text.toList.map some

/-- The text that some bytes spell, if all of them belong to characters. -/
def text? (bytes : List UInt8) : Option String :=
  ((decode bytes).mapM id).map String.ofList

end Utf8

end ExpiringCache
