import ExpiringCache.Proofs.Json.Written
import ExpiringCache.Service.Reply
import ExpiringCache.Service.WriteRequest

/-!
# A JSON library

The service leaves the writing and the reading of JSON texts to a library.  Here
any library will do: it is given by a few functions of which no more is known than
the rules that such a library is documented to follow.  What members a reply and a
request have is up to the service.
-/

namespace ExpiringCache

open WriteRequest (Field Members)

/-- Fills in a member that is a text. -/
def WriteRequest.Members.fill? (members : Members) (content : String) : Field → Option Members
  | .key => some { members with key := some content }
  | .value => some { members with value := some content }
  | .ttl => none

structure JsonLibrary where
  /-- What is written for a character of a string. -/
  escape : Char → List Char
  /-- What is written for the value of a member. -/
  value : ReplyValue → List Char
  write : Reply → String
  /-- Reads a string behind its opening quote; what follows its closing quote is left. -/
  string? : List Char → Option (List Char × List Char)
  /-- Passes over a value that is not asked for; what follows it is left. -/
  skip? : List Char → Option (List Char)
  read : String → Except Json.Refusal WriteRequest
  /-- Reads a request from behind the opening quote of a name on. -/
  readMember : Members → List Char → Except Json.Refusal WriteRequest
  /-- Reads a request from behind the value of a member on. -/
  readOn : Members → List Char → Except Json.Refusal WriteRequest

namespace JsonLibrary

def quote (library : JsonLibrary) (text : String) : List Char :=
  '"' :: text.toList.flatMap library.escape ++ ['"']

def member (library : JsonLibrary) (entry : String × ReplyValue) : List Char :=
  library.quote entry.1 ++ ':' :: library.value entry.2

/-- The rules of the format, and those of reading a record from an object. -/
structure Conforms (library : JsonLibrary) : Prop where
  /-- Quotes, backslashes and control characters are escaped, and no other character has to be. -/
  escape_written : ∀ char, Json.Written char (library.escape char)
  value_text : ∀ content, library.value (.text content) = library.quote content
  value_number : ∀ number, library.value (.number number) = Nat.toDigits 10 number
  /-- A record is written as an object of its members in their order, without blanks. -/
  write_toList : ∀ reply, (library.write reply).toList =
    '\x7b' :: List.intercalate [','] (reply.members.map library.member) ++ ['\x7d']
  string?_closed : ∀ rest, library.string? ('"' :: rest) = some ([], rest)
  string?_plain : ∀ {char}, char ≠ '"' → char ≠ '\\' → Json.isControl char = false → ∀ rest,
    library.string? (char :: rest) = (library.string? rest).map (Prod.map (char :: ·) id)
  /-- A backslash and a letter. -/
  string?_short : ∀ {letter char}, Json.shortEscape? letter = some char → ∀ rest,
    library.string? ('\\' :: letter :: rest) =
      (library.string? rest).map (Prod.map (char :: ·) id)
  /-- The four digits of a character that does not take two such escapes. -/
  string?_unicode : ∀ {first second third fourth unit},
    Json.hexUnit [some first, some second, some third, some fourth] = .ok unit →
      Json.isHighSurrogate unit = false → Json.isLowSurrogate unit = false → ∀ rest,
        library.string? ('\\' :: 'u' :: first :: second :: third :: fourth :: rest) =
          (library.string? rest).map (Prod.map (Char.ofNat unit :: ·) id)
  /-- A number that is not asked for may be of any size. -/
  skip?_number : ∀ number {stop}, Json.Number.isStop (some stop) = true → ∀ rest,
    library.skip? (Nat.toDigits 10 number ++ stop :: rest) = some (stop :: rest)
  read_object : ∀ {text : String} {rest}, text.toList = '\x7b' :: '"' :: rest →
    library.read text = library.readMember {} rest
  /-- A member of the record that has not come before. -/
  readMember_known : ∀ {members filled : Members} {field : Field} {text name content asked rest},
    library.string? text = some (name, ':' :: '"' :: asked) →
      Field.ofName? (String.ofList name) = some field → members.has field = false →
        library.string? asked = some (content, rest) →
          members.fill? (String.ofList content) field = some filled →
            library.readMember members text = library.readOn filled rest
  /-- A member that the record does not have. -/
  readMember_unknown : ∀ {members : Members} {text name passed rest},
    library.string? text = some (name, ':' :: passed) →
      Field.ofName? (String.ofList name) = none → library.skip? passed = some rest →
        library.readMember members text = library.readOn members rest
  readOn_comma : ∀ members rest,
    library.readOn members (',' :: '"' :: rest) = library.readMember members rest
  /-- A lifetime that is missing is none. -/
  readOn_end : ∀ {members : Members} {key value},
    members.key = some key → members.value = some value →
      library.readOn members ['\x7d'] = .ok { key, value, ttl := members.ttl.getD none }

namespace Conforms

variable {library : JsonLibrary} (conforms : library.Conforms)

include conforms

/-- What is written for a character is read as this character. -/
theorem string?_written {char : Char} {letters : List Char} (written : Json.Written char letters)
    (rest : List Char) :
    library.string? (letters ++ rest) = (library.string? rest).map (Prod.map (char :: ·) id) := by
  cases written with
  | short letter meant => exact conforms.string?_short meant rest
  | unicode control =>
      have small : char.toNat < 32 := of_decide_eq_true control
      have notHigh : Json.isHighSurrogate char.toNat = false := decide_eq_false (by omega)
      have notLow : Json.isLowSurrogate char.toNat = false := decide_eq_false (by omega)
      have read := conforms.string?_unicode (Json.hexUnit_control control) notHigh notLow rest
      rw [Char.ofNat_toNat] at read
      exact read
  | plain notQuote notBackslash noControl =>
      exact conforms.string?_plain notQuote notBackslash noControl rest

/-- What is written for the characters of a string is read as these characters. -/
theorem string?_escaped (chars rest : List Char) :
    library.string? (chars.flatMap library.escape ++ '"' :: rest) = some (chars, rest) := by
  induction chars with
  | nil => exact conforms.string?_closed rest
  | cons char chars ih =>
      rw [List.flatMap_cons, List.append_assoc,
        conforms.string?_written (conforms.escape_written char), ih]
      rfl

theorem string?_quote (text : String) (rest : List Char) :
    ∃ inside, library.quote text ++ rest = '"' :: inside ∧
      library.string? inside = some (text.toList, rest) := by
  refine ⟨text.toList.flatMap library.escape ++ '"' :: rest, ?_, conforms.string?_escaped _ _⟩
  simp [quote]

/-- A member with a text is read into the field of its name. -/
theorem readMember_text (name content : String) {members filled : Members} {field : Field}
    (named : Field.ofName? name = some field) (unread : members.has field = false)
    (takes : members.fill? content field = some filled) (rest : List Char) :
    ∃ inside, library.member (name, .text content) ++ rest = '"' :: inside ∧
      library.readMember members inside = library.readOn filled rest := by
  obtain ⟨asked, value, read⟩ := conforms.string?_quote content rest
  obtain ⟨inside, whole, begun⟩ := conforms.string?_quote name (':' :: '"' :: asked)
  refine ⟨inside, ?_, conforms.readMember_known begun ?_ unread read ?_⟩
  · rw [member, conforms.value_text, List.append_assoc, List.cons_append, value, whole]
  · rw [String.ofList_toList, named]
  · rw [String.ofList_toList, takes]

/-- A member with a number, of a name that no field has, is passed over. -/
theorem readMember_number (members : Members) {name : String} (unknown : Field.ofName? name = none)
    (number : Nat) {stop : Char} (ends : Json.Number.isStop (some stop) = true)
    (rest : List Char) :
    ∃ inside, library.member (name, .number number) ++ stop :: rest = '"' :: inside ∧
      library.readMember members inside = library.readOn members (stop :: rest) := by
  have passed := conforms.skip?_number number ends rest
  obtain ⟨inside, whole, begun⟩ :=
    conforms.string?_quote name (':' :: (Nat.toDigits 10 number ++ stop :: rest))
  refine ⟨inside, ?_, conforms.readMember_unknown begun ?_ passed⟩
  · rw [member, conforms.value_number, List.append_assoc, List.cons_append, whole]
  · rw [String.ofList_toList, unknown]

end Conforms

end JsonLibrary

end ExpiringCache
