import ExpiringCache.Json.Lexeme

/-!
# Reading what was written

A string written between quotes and a number written in decimal digits are read
back as one lexeme each, whatever follows them.
-/

namespace ExpiringCache.Json

/-! ## Characters inside a string -/

/-- The three ways in which a character is written inside a string. -/
inductive Written (char : Char) : List Char → Prop where
  | short (letter : Char) : shortEscape? letter = some char → Written char ['\\', letter]
  | unicode : isControl char = true → Written char
      ['\\', 'u', '0', '0', Nat.digitChar (char.toNat / 16), Nat.digitChar (char.toNat % 16)]
  | plain : char ≠ '"' → char ≠ '\\' → isControl char = false → Written char [char]

theorem written_escape (char : Char) : Written char (escape char) := by
  unfold escape
  split
  · next same => exact .short '"' (by rw [same]; rfl)
  split
  · next same => exact .short '\\' (by rw [same]; rfl)
  split
  · next same => exact .short 'b' (by rw [same]; rfl)
  split
  · next same => exact .short 't' (by rw [same]; rfl)
  split
  · next same => exact .short 'n' (by rw [same]; rfl)
  split
  · next same => exact .short 'f' (by rw [same]; rfl)
  split
  · next same => exact .short 'r' (by rw [same]; rfl)
  split
  · next control => exact .unicode control
  · next notQuote notBackslash _ _ _ _ _ noControl =>
      exact .plain notQuote notBackslash (Bool.eq_false_iff.mpr noControl)

theorem shortEscape?_ne_u {letter char : Char} (meant : shortEscape? letter = some char) :
    letter ≠ 'u' := by
  rintro rfl
  cases meant

theorem readEscape_short {letter char : Char} (meant : shortEscape? letter = some char)
    (rest : List Symbol) : readEscape (some letter :: rest) = .ok (char, 1) := by
  have notUnicode := shortEscape?_ne_u meant
  simp only [readEscape, meant]

theorem escapeSize_short {letter char : Char} (meant : shortEscape? letter = some char)
    (rest : List Symbol) : escapeSize (some letter :: rest) = .ok 1 := by
  have notUnicode := shortEscape?_ne_u meant
  simp only [escapeSize, meant]
  rfl

theorem hexDigit?_digitChar :
    ∀ digit < 16, hexDigit? (some (Nat.digitChar digit)) = some digit := by
  decide

/-- Four digits are read alike whatever follows them. -/
theorem hexUnit_append {first second third fourth : Symbol} {unit : Nat}
    (spelled : hexUnit [first, second, third, fourth] = .ok unit) (rest : List Symbol) :
    hexUnit (first :: second :: third :: fourth :: rest) = .ok unit := by
  simp only [hexUnit, List.take_succ_cons, List.take_zero] at spelled ⊢
  split
  · next digits =>
      rw [digits] at spelled
      exact spelled
  · next digits =>
      split at spelled
      · exact absurd ‹_› (digits _ _ _ _)
      · split at spelled <;> cases spelled

theorem hexUnit_control {char : Char} (control : isControl char = true) :
    hexUnit [some '0', some '0', some (Nat.digitChar (char.toNat / 16)),
      some (Nat.digitChar (char.toNat % 16))] = .ok char.toNat := by
  have small : char.toNat < 32 := of_decide_eq_true control
  have high := hexDigit?_digitChar (char.toNat / 16) (by omega)
  have low := hexDigit?_digitChar (char.toNat % 16) (by omega)
  have zero : hexDigit? (some '0') = some 0 := rfl
  simp only [hexUnit, List.take_succ_cons, List.take_zero, List.mapM_cons, List.mapM_nil, zero,
    high, low]
  have whole : ((0 * 16 + 0) * 16 + char.toNat / 16) * 16 + char.toNat % 16 = char.toNat := by
    omega
  exact congrArg Except.ok whole

section

variable {first second third fourth : Symbol} {unit : Nat}

theorem readEscape_unicode (spelled : hexUnit [first, second, third, fourth] = .ok unit)
    (notHigh : isHighSurrogate unit = false) (notLow : isLowSurrogate unit = false)
    (rest : List Symbol) :
    readEscape (some 'u' :: first :: second :: third :: fourth :: rest) =
      .ok (Char.ofNat unit, 5) := by
  simp only [readEscape, readUnicodeEscape, hexUnit_append spelled rest, bind, Except.bind, notHigh,
    notLow]
  rfl

theorem escapeSize_unicode (spelled : hexUnit [first, second, third, fourth] = .ok unit)
    (rest : List Symbol) :
    escapeSize (some 'u' :: first :: second :: third :: fourth :: rest) = .ok 5 := by
  simp only [escapeSize, hexUnit_append spelled rest]
  rfl

end

/-! ## Strings -/

/-- Characters already read stand in front of those still to be read. -/
theorem readStringFrom_eq (pass : Nat) (read : List Char) (sound : Bool) (text : List Symbol) :
    readStringFrom pass read sound text =
      (readStringFrom pass [] sound text).map fun content =>
        String.ofList (read.reverse ++ content.toList) := by
  induction text generalizing pass read sound with
  | nil => rfl
  | cons symbol rest ih =>
      have moved (size : Nat) (char : Char) :
          readStringFrom size (char :: read) sound rest =
            (readStringFrom size [char] sound rest).map fun content =>
              String.ofList (read.reverse ++ content.toList) := by
        rw [ih size (char :: read), ih size [char]]
        cases readStringFrom size [] sound rest with
        | error refusal => rfl
        | ok content => simp [Except.map]
      cases pass with
      | succ more => exact ih more read sound
      | zero =>
          cases symbol with
          | none => exact ih 0 read false
          | some char =>
              rw [readStringFrom, readStringFrom]
              split
              · split
                · simp [Except.map]
                · rfl
              split
              · cases readEscape rest with
                | error refusal => rfl
                | ok taken => exact moved taken.2 taken.1
              split
              · rfl
              · exact moved 0 char

theorem stringSizeFrom_eq (pass count : Nat) (text : List Symbol) :
    stringSizeFrom pass count text = (stringSizeFrom pass 0 text).map (count + ·) := by
  induction text generalizing pass count with
  | nil => rfl
  | cons symbol rest ih =>
      have moved (size : Nat) : stringSizeFrom size (count + 1) rest =
          (stringSizeFrom size (0 + 1) rest).map (count + ·) := by
        rw [ih size (count + 1), ih size (0 + 1)]
        cases stringSizeFrom size 0 rest with
        | error refusal => rfl
        | ok size => simp [Except.map, Nat.add_assoc]
      cases pass with
      | succ more => exact moved more
      | zero =>
          cases symbol with
          | none => exact moved 0
          | some char =>
              rw [stringSizeFrom, stringSizeFrom]
              split
              · rfl
              split
              · cases escapeSize rest with
                | error refusal => rfl
                | ok size => exact moved size
              split
              · rfl
              · exact moved 0

/-- A string behind its opening quote: its characters, and what follows its closing quote. -/
def string? (text : List Char) : Option (List Char × List Char) :=
  match readString (text.map some), stringSize (text.map some) with
  | .ok content, .ok size => some (content.toList, text.drop size)
  | _, _ => none

theorem string?_closed (rest : List Char) : string? ('"' :: rest) = some ([], rest) := rfl

/-- The letters of one character move this character to those that follow. -/
theorem string?_letters (letters : List Char) {char : Char} {rest : List Char}
    (read : readStringFrom 0 [] true (letters.map some ++ rest.map some) =
      readStringFrom 0 [char] true (rest.map some))
    (sized : stringSizeFrom 0 0 (letters.map some ++ rest.map some) =
      stringSizeFrom 0 letters.length (rest.map some)) :
    string? (letters ++ rest) = (string? rest).map (Prod.map (char :: ·) id) := by
  rw [readStringFrom_eq 0 [char]] at read
  rw [stringSizeFrom_eq 0 letters.length] at sized
  unfold string? readString stringSize
  rw [List.map_append, read, sized]
  cases readStringFrom 0 [] true (rest.map some) with
  | error refusal => rfl
  | ok content =>
      cases stringSizeFrom 0 0 (rest.map some) with
      | error refusal => rfl
      | ok size => simp [Except.map]

theorem string?_plain {char : Char} (notQuote : char ≠ '"') (notBackslash : char ≠ '\\')
    (noControl : isControl char = false) (rest : List Char) :
    string? (char :: rest) = (string? rest).map (Prod.map (char :: ·) id) := by
  refine string?_letters [char] ?_ ?_
  · simp [readStringFrom, notQuote, notBackslash, noControl]
  · simp [stringSizeFrom, notQuote, notBackslash, noControl]

theorem string?_short {letter char : Char} (meant : shortEscape? letter = some char)
    (rest : List Char) :
    string? ('\\' :: letter :: rest) = (string? rest).map (Prod.map (char :: ·) id) := by
  refine string?_letters ['\\', letter] ?_ ?_
  · simp [readStringFrom, readEscape_short meant]
  · simp [stringSizeFrom, escapeSize_short meant]

theorem string?_unicode {first second third fourth : Char} {unit : Nat}
    (spelled : hexUnit [some first, some second, some third, some fourth] = .ok unit)
    (notHigh : isHighSurrogate unit = false) (notLow : isLowSurrogate unit = false)
    (rest : List Char) :
    string? ('\\' :: 'u' :: first :: second :: third :: fourth :: rest) =
      (string? rest).map (Prod.map (Char.ofNat unit :: ·) id) := by
  refine string?_letters ['\\', 'u', first, second, third, fourth] ?_ ?_
  · simp [readStringFrom, readEscape_unicode spelled notHigh notLow]
  · simp [stringSizeFrom, escapeSize_unicode spelled]

/-! ## Numbers -/

namespace Number

/-- Whether a number has ended before a symbol. -/
def isStop : Symbol → Bool
  | some char => !char.isDigit && char ≠ '.' && char ≠ 'e' && char ≠ 'E'
  | none => true

theorem digit?_eq_none_of_isStop {stop : Symbol} (ends : isStop stop = true) :
    digit? stop = none := by
  cases stop with
  | none => rfl
  | some char =>
      simp only [isStop, Bool.and_eq_true, Bool.not_eq_true'] at ends
      rw [digit?, if_neg]
      simp [ends.1.1.1]

theorem digits_written {letters : List Char} (allDigits : ∀ letter ∈ letters, letter.isDigit = true)
    {stop : Symbol} (ends : isStop stop = true) (rest : List Symbol) :
    digits (letters.map some ++ stop :: rest) =
      letters.map fun letter => letter.toNat - '0'.toNat := by
  induction letters with
  | nil => simp [digits, digit?_eq_none_of_isStop ends]
  | cons letter letters ih =>
      obtain ⟨isDigit, others⟩ := List.forall_mem_cons.mp allDigits
      have here : digit? (some letter) = some (letter.toNat - '0'.toNat) := if_pos isDigit
      have after := ih others
      unfold digits at after ⊢
      rw [List.map_cons, List.cons_append, List.takeWhile_cons_of_pos (by rw [here]; rfl),
        List.filterMap_cons_some here, after, List.map_cons]

/-- A positive number is not written with a leading zero. -/
theorem leading_digit (value : Nat) (positive : 0 < value) :
    ∃ first rest, Nat.toDigits 10 value = first :: rest ∧ first ≠ '0' := by
  -- All digits but the last are those of the tenth part, which is positive too.
  induction value using Nat.strongRecOn with
  | ind value ih =>
      by_cases small : value < 10
      · refine ⟨Nat.digitChar value, [], Nat.toDigits_of_lt_base small, ?_⟩
        intro zero
        exact absurd (Nat.digitChar_eq_zero.mp zero) (Nat.ne_of_gt positive)
      · have large : 10 ≤ value := Nat.le_of_not_lt small
        obtain ⟨first, rest, written, nonzero⟩ := ih (value / 10) (by omega) (by omega)
        refine ⟨first, rest ++ [Nat.digitChar (value % 10)], ?_, nonzero⟩
        rw [Nat.toDigits_of_base_le (by decide) large, written, List.cons_append]

theorem parts_written {first : Char} {more : List Char}
    (allDigits : ∀ letter ∈ first :: more, letter.isDigit = true)
    (leading : first = '0' → more = []) {stop : Symbol} (ends : isStop stop = true)
    (rest : List Symbol) :
    parts ((first :: more).map some ++ stop :: rest) = .ok {
      isNegative := false
      whole := (first :: more).map fun letter => letter.toNat - '0'.toNat
      fraction := []
      exponent := 0
      isInteger := true
      size := more.length + 1 } := by
  have notSign : first ≠ '-' := by
    rintro rfl
    exact absurd (allDigits '-' List.mem_cons_self) (by decide)
  have read := digits_written allDigits ends rest
  have noPoint : stop ≠ some '.' := by
    rintro rfl
    cases ends
  have noExponent : stop ≠ some 'e' ∧ stop ≠ some 'E' := by
    constructor <;> (rintro rfl; cases ends)
  -- A leading zero is refused only before a further digit.
  cases more with
  | nil =>
      simp only [List.map_cons, List.map_nil, List.cons_append, List.nil_append] at read ⊢
      simp [parts, notSign, read, noPoint, noExponent]
      rfl
  | cons second more =>
      have notZero : first ≠ '0' := fun zero => List.cons_ne_nil second more (leading zero)
      have nonzero : first.toNat - 48 ≠ 0 := by
        have atLeast : 48 ≤ first.toNat :=
          (Char.isDigit_iff_toNat.mp (allDigits first List.mem_cons_self)).1
        have other : first.toNat ≠ 48 := fun same => notZero (Char.toNat_inj.mp same)
        omega
      simp only [List.map_cons, List.cons_append] at read ⊢
      simp [parts, notSign, read, noPoint, noExponent, nonzero]
      rfl

/-- A natural number takes as many symbols as it has digits. -/
theorem size_written (value : Nat) {stop : Symbol} (ends : isStop stop = true)
    (rest : List Symbol) :
    size ((Nat.toDigits 10 value).map some ++ stop :: rest) =
      .ok (Nat.toDigits 10 value).length := by
  have allDigits : ∀ letter ∈ Nat.toDigits 10 value, letter.isDigit = true :=
    fun letter member => Nat.isDigit_of_mem_toDigits (by decide) (by decide) member
  cases Nat.eq_zero_or_pos value with
  | inl zero =>
      subst zero
      rw [Nat.toDigits_zero] at allDigits ⊢
      rw [size, parts_written allDigits (fun _ => rfl) ends rest]
      rfl
  | inr positive =>
      obtain ⟨first, more, written, notZero⟩ := leading_digit value positive
      rw [written] at allDigits ⊢
      rw [size, parts_written allDigits (fun zero => absurd zero notZero) ends rest]
      rfl

/-- What follows the number at the front of a text. -/
def skip? : List Char → Option (List Char)
  | [] => none
  | first :: more =>
      if first.isDigit then
        (size ((first :: more).map some)).toOption.map fun size => more.drop (size - 1)
      else none

theorem skip?_written (value : Nat) {stop : Char} (ends : isStop (some stop) = true)
    (rest : List Char) : skip? (Nat.toDigits 10 value ++ stop :: rest) = some (stop :: rest) := by
  have sized := size_written value ends (rest.map some)
  have allDigits (letter : Char) (member : letter ∈ Nat.toDigits 10 value) :
      letter.isDigit = true :=
    Nat.isDigit_of_mem_toDigits (by decide) (by decide) member
  cases written : Nat.toDigits 10 value with
  | nil => exact absurd written Nat.toDigits_ne_nil
  | cons first more =>
      rw [written] at sized allDigits
      have split : (first :: more).map some ++ some stop :: rest.map some =
          (first :: (more ++ stop :: rest)).map some := by simp
      rw [split] at sized
      rw [List.cons_append, skip?, if_pos (allDigits first List.mem_cons_self), sized]
      exact congrArg some (List.drop_left' rfl)

end Number

/-! ## Lexemes -/

namespace Lexeme

/-- The symbols of a lexeme that has been read are passed over. -/
theorem scanFrom_eq (pass : Nat) (text : List Symbol) :
    scanFrom pass text = scan (text.drop pass) := by
  induction text generalizing pass with
  | nil => rw [List.drop_nil, scan, scanFrom, scanFrom]
  | cons symbol rest ih =>
      cases pass with
      | zero => rfl
      | succ more => exact ih more

theorem scan_of_front {char : Char} (visible : isBlank char = false) {rest : List Symbol}
    {lexeme : Lexeme} {size : Nat} (taken : front char rest = (lexeme, some size)) :
    scan (some char :: rest) = lexeme :: scan (rest.drop size) := by
  rw [← scanFrom_eq]
  simp [scan, scanFrom, visible, taken]

theorem scan_openBrace (rest : List Symbol) :
    scan (some '\x7b' :: rest) = .openBrace :: scan rest :=
  scan_of_front rfl (show front '\x7b' rest = (_, some 0) from rfl)

theorem scan_comma (rest : List Symbol) :
    scan (some ',' :: rest) = .comma :: scan rest :=
  scan_of_front rfl (show front ',' rest = (_, some 0) from rfl)

theorem scan_colon (rest : List Symbol) :
    scan (some ':' :: rest) = .colon :: scan rest :=
  scan_of_front rfl (show front ':' rest = (_, some 0) from rfl)

theorem front_quote (text : List Symbol) :
    front '"' text = (.string (readString text) ((stringSize text).map fun _ => ()),
      (stringSize text).toOption) := rfl

/-- A quote begins a string, whether this can be read or not. -/
theorem scan_quote (text : List Symbol) :
    ∃ strict whole rest, scan (some '"' :: text) = .string strict whole :: rest := by
  have opened := front_quote text
  cases sized : stringSize text with
  | error refusal =>
      rw [sized] at opened
      refine ⟨readString text, .error refusal, [], ?_⟩
      simp [scan, scanFrom, isBlank, opened, Except.toOption, Except.map]
  | ok size =>
      rw [sized] at opened
      exact ⟨_, _, _, scan_of_front rfl opened⟩

/-- A string is one lexeme. -/
theorem scan_string {text content rest : List Char} (read : string? text = some (content, rest)) :
    scan (some '"' :: text.map some) =
      .string (.ok (String.ofList content)) (.ok ()) :: scan (rest.map some) := by
  have opened := front_quote (text.map some)
  unfold string? at read
  cases reading : readString (text.map some) with
  | error refusal =>
      rw [reading] at read
      cases read
  | ok found =>
      cases sized : stringSize (text.map some) with
      | error refusal =>
          rw [reading, sized] at read
          cases read
      | ok size =>
          rw [reading, sized] at read opened
          cases read
          rw [scan_of_front rfl opened, List.map_drop, String.ofList_toList]
          rfl

theorem ne_of_isDigit {char : Char} (isDigit : char.isDigit = true) (mark : Char)
    (noDigit : mark.isDigit = false) : char ≠ mark := by
  rintro rfl
  exact absurd isDigit (Bool.eq_false_iff.mp noDigit)

theorem front_digit {char : Char} (isDigit : char.isDigit = true) (rest : List Symbol) :
    front char rest = (.number (Number.read (some char :: rest))
        ((Number.size (some char :: rest)).map fun _ => ()),
      (Number.size (some char :: rest)).toOption.map (· - 1)) := by
  simp [front, ne_of_isDigit isDigit, isDigit]

/-- A number is one lexeme, which will do where any value will do. -/
theorem scan_number {text rest : List Char} (passed : Number.skip? text = some rest) :
    ∃ strict, scan (text.map some) = .number strict (.ok ()) :: scan (rest.map some) := by
  cases text with
  | nil => cases passed
  | cons first more =>
      rw [Number.skip?] at passed
      split at passed
      · rename_i isDigit
        have visible : isBlank first = false := by simp [isBlank, ne_of_isDigit isDigit]
        have found := front_digit isDigit (more.map some)
        rw [List.map_cons] at passed ⊢
        cases sized : Number.size (some first :: more.map some) with
        | error refusal =>
            rw [sized] at passed
            cases passed
        | ok size =>
            rw [sized] at passed found
            cases passed
            refine ⟨Number.read (some first :: more.map some), ?_⟩
            rw [scan_of_front visible found, List.map_drop]
            rfl
      · cases passed

end Lexeme

end ExpiringCache.Json
