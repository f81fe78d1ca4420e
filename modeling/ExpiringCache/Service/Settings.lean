import ExpiringCache.Text.Blank
import ExpiringCache.Text.Utf8
import ExpiringCache.Time

/-!
# Settings

The settings of the service, read from environment variables.  A variable that
is missing, is no text or cannot be understood leaves the setting as it is.
-/

namespace ExpiringCache

structure Settings where
  /-- Shared lifetime in seconds; zero for none. -/
  defaultTtl : Nat := 300
  /-- Whether reads leave the lifetime of an entry alone. -/
  skipRenewal : Bool := false
  /-- The TCP endpoint on which the service listens. -/
  listenOn : Nat := 3000
  deriving DecidableEq, Repr

namespace Settings

def sharedLifetime (settings : Settings) : Duration := .ofSeconds settings.defaultTtl

/-- A sign of plus in front of a number is passed over. -/
def unsigned : List Char → List Char
  | '+' :: rest => rest
  | text => text

/-- Reads a decimal number of at most `bits` bits. -/
def natural? (bits : Nat) (text : List Char) : Option Nat :=
  let digits := unsigned text
  if digits ≠ [] ∧ digits.all (·.isDigit) then
    let value := Nat.ofDigitChars 10 digits 0
    if value < Nat.pow 2 bits then some value else none
  else none

/-- Reads a yes or no, in any case and with blanks around it. -/
def boolean? (text : List Char) : Option Bool :=
  let word := String.ofList ((Blank.trim text).map Char.toLower)
  if word ∈ ["1", "true", "yes", "on"] then some true
  else if word ∈ ["0", "false", "no", "off"] then some false
  else none

def ofEnvironment (bytesOf? : String → Option (List UInt8)) : Settings :=
  let text? (name : String) : Option (List Char) :=
    ((bytesOf? name).bind Utf8.text?).map String.toList
  let defaults : Settings := {}
  { defaultTtl := ((text? "DEFAULT_TTL").bind (natural? 64)).getD defaults.defaultTtl
    skipRenewal := ((text? "SKIP_TTL_EXTENSION").bind boolean?).getD defaults.skipRenewal
    listenOn := ((text? "SERVER_PORT").bind (natural? 16)).getD defaults.listenOn }

end Settings

end ExpiringCache
