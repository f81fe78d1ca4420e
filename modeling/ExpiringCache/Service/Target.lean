import ExpiringCache.Text.Utf8

/-!
# Request targets

The path of a request target, and the resource that it names.
-/

namespace ExpiringCache

inductive Resource where
  | set
  /-- The pair under a key, which is still encoded. -/
  | get (encodedKey : String)
  | del (encodedKey : String)
  | stats
  | health
  deriving DecidableEq, Repr

namespace Target

def withoutQuery (target : List Char) : List Char :=
  target.takeWhile fun char => char ≠ '?' ∧ char ≠ '#'

/-- Whether a target starts with a scheme and an authority; then what follows `://`. -/
def afterScheme? : List Char → Option (List Char)
  | ':' :: '/' :: '/' :: rest => some rest
  | char :: rest => if char = '/' then none else afterScheme? rest
  | [] => none

def path (target : String) : String :=
  let place := withoutQuery target.toList
  match afterScheme? place with
  | none => String.ofList place
  | some rest =>
      let path := rest.dropWhile (· ≠ '/')
      if path.isEmpty then "/" else String.ofList path

/-- The resource that a path names; keys are not empty and hold no slash. -/
def resource? (path : String) : Option Resource :=
  match path.splitOn "/" with
  | ["", "set"] => some .set
  | ["", "get", key] => if key.isEmpty then none else some (.get key)
  | ["", "del", key] => if key.isEmpty then none else some (.del key)
  | ["", "stats"] => some .stats
  | ["", "health"] => some .health
  | _ => none

def hexValue? (byte : UInt8) : Option UInt8 :=
  if 0x30 ≤ byte ∧ byte ≤ 0x39 then some (byte - 0x30)
  else if 0x41 ≤ byte ∧ byte ≤ 0x46 then some (byte - 0x41 + 10)
  else if 0x61 ≤ byte ∧ byte ≤ 0x66 then some (byte - 0x61 + 10)
  else none

/-- Decodes percent escapes; a percent sign without two hexadecimal digits stays. -/
def percentDecode : List UInt8 → List UInt8
  | 0x25 :: high :: low :: rest =>
      match hexValue? high, hexValue? low with
      | some high, some low => (high * 16 + low) :: percentDecode rest
      | _, _ => 0x25 :: percentDecode (high :: low :: rest)
  | byte :: rest => byte :: percentDecode rest
  | [] => []

def key? (encoded : String) : Option String :=
  Utf8.text? (percentDecode encoded.toUTF8.toList)

end Target

end ExpiringCache
