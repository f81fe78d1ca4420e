/-!
# Media types

Whether a content type announces JSON.  It does if it is of type `application`
and its subtype, cut at the last plus sign, has `json` on either side; case does
not matter, and parameters have to be well-formed.
-/

namespace ExpiringCache.MediaType

def tokenMarks : List Char :=
  ['!', '#', '$', '%', '&', '\'', '*', '+', '-', '.', '^', '_', '\x60', '|', '~']

def isTokenChar (char : Char) : Bool := char.isAlphanum ∨ char ∈ tokenMarks

/-- The characters of a quoted parameter value; a quote may only come first. -/
def isQuotedChar (char : Char) : Bool :=
  0x20 ≤ char.toNat ∧ char.toNat < 0x7F

/-- Where a list of parameters stands; the text is well-formed up to here. -/
inductive Place where
  /-- Before a parameter; blanks may come first. -/
  | start
  | name
  /-- At the first character of a value. -/
  | value
  | token
  | quoted (isEmpty : Bool)
  /-- Behind a quoted value. -/
  | behind
  deriving DecidableEq, Repr

/-- Goes on by one character; none if the character may not stand there. -/
def Place.step? (place : Place) (char : Char) : Option Place :=
  match place with
  | .start => if char = ' ' then some .start else if isTokenChar char then some .name else none
  | .name =>
      if char = '=' then some .value else if isTokenChar char then some .name else none
  | .value =>
      if char = '"' then some (.quoted true) else if isTokenChar char then some .token else none
  | .token =>
      if char = ';' then some .start else if isTokenChar char then some .token else none
  | .quoted isEmpty =>
      if char = '"' ∧ !isEmpty then some .behind
      else if isQuotedChar char then some (.quoted false) else none
  | .behind => if char = ';' then some .start else if char = ' ' then some .behind else none

def Place.canEnd : Place → Bool
  | .start => true
  | .value => true
  | .token => true
  | .behind => true
  | .name => false
  | .quoted _ => false

/-- Whether what follows the first semicolon is a list of parameters. -/
def hasParameters (text : List Char) : Bool :=
  (text.foldlM Place.step? Place.start).any Place.canEnd

/-- The parts of a subtype before and behind its last plus sign, which is not its first. -/
def cut (subtype : List Char) : List Char × List Char :=
  let behind := (subtype.reverse.takeWhile (· ≠ '+')).reverse
  let before := subtype.take (subtype.length - behind.length - 1)
  if before = [] then (subtype, []) else (before, behind)

def isJson (contentType : String) : Bool :=
  let text := contentType.toList
  let main := text.takeWhile (· ≠ '/')
  let afterSlash := (text.dropWhile (· ≠ '/')).drop 1
  let subtype := afterSlash.takeWhile (· ≠ ';')
  let rest := afterSlash.dropWhile (· ≠ ';')
  let (before, behind) := cut (subtype.map Char.toLower)
  String.ofList (main.map Char.toLower) = "application" ∧ subtype.all isTokenChar ∧
    (before = ['j', 's', 'o', 'n'] ∨ behind = ['j', 's', 'o', 'n']) ∧
    (rest = [] ∨ hasParameters (rest.drop 1))

end ExpiringCache.MediaType
