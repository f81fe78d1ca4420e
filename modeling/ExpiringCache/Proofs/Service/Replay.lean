import ExpiringCache.Proofs.Service.JsonLibrary

/-!
# Sending a reply back

The reply with a pair, sent back as the body of a request to store, stores this
pair again.  The time left is not a lifetime: it is a member that a request does
not have, and is passed over whatever number it is.  This holds for every library
that follows the rules, and the writer and the reader of this project do.
-/

namespace ExpiringCache

open Json (Lexeme Refusal)
open WriteRequest (Field Members Reader)

namespace JsonLibrary.Conforms

variable {library : JsonLibrary}

/-- Whatever follows key and value, both have been read when it is looked at. -/
theorem read_pair (conforms : library.Conforms) (key value : String) {text : String}
    {rest : List Char} (written : text.toList = '\x7b' ::
      (library.member ("key", .text key) ++ ',' ::
        (library.member ("value", .text value) ++ rest))) :
    library.read text = library.readOn { key := some key, value := some value } rest := by
  have keyed : ({} : Members).fill? key .key = some { key := some key } := rfl
  have valued : ({ key := some key } : Members).fill? value .value =
      some { key := some key, value := some value } := rfl
  obtain ⟨second, last, valueRead⟩ := conforms.readMember_text "value" value rfl rfl valued rest
  obtain ⟨first, whole, keyRead⟩ :=
    conforms.readMember_text "key" key rfl rfl keyed (',' :: '"' :: second)
  rw [last, whole] at written
  rw [conforms.read_object written, keyRead, conforms.readOn_comma, valueRead]

/-- The reply with a pair, sent back, is a request to store this pair, with no lifetime. -/
theorem reads_back_found (conforms : library.Conforms) (key value : String)
    (remainingMillis : Option Nat) :
    library.read (library.write (.found key value remainingMillis)) =
      .ok { key, value, ttl := none } := by
  cases remainingMillis with
  | none =>
      have written : (library.write (.found key value none)).toList = '\x7b' ::
          (library.member ("key", .text key) ++ ',' ::
            (library.member ("value", .text value) ++ ['\x7d'])) := by
        rw [conforms.write_toList]
        simp [Reply.members, List.intercalate]
      rw [conforms.read_pair key value written, conforms.readOn_end rfl rfl]
      rfl
  | some millis =>
      have closes : Json.Number.isStop (some '\x7d') = true := rfl
      have unknown : Field.ofName? "ttl_remaining_ms" = none := by decide
      obtain ⟨third, last, passed⟩ := conforms.readMember_number
        { key := some key, value := some value } unknown millis closes []
      have written : (library.write (.found key value (some millis))).toList = '\x7b' ::
          (library.member ("key", .text key) ++ ',' ::
            (library.member ("value", .text value) ++ ',' :: '"' :: third)) := by
        rw [conforms.write_toList, ← last]
        simp [Reply.members, List.intercalate]
      rw [conforms.read_pair key value written, conforms.readOn_comma, passed,
        conforms.readOn_end rfl rfl]
      rfl

end JsonLibrary.Conforms

/-! ## The writer and the reader of this project -/

namespace WriteRequest

/-- A request has been read if nothing follows it. -/
def conclude : Except Refusal (WriteRequest × List Lexeme) → Except Refusal WriteRequest
  | .ok (request, []) => .ok request
  | .ok (_, _ :: _) => .error .malformed
  | .error refusal => .error refusal

theorem ofText_eq (text : String) :
    ofText text = conclude (Reader.start.run (Lexeme.scan (Utf8.symbols text))) := rfl

theorem Members.put_of_fill {members filled : Members} {content : String} {field : Field}
    (takes : members.fill? content field = some filled) :
    members.put field (.string (.ok content) (.ok ())) = .ok filled := by
  cases field with
  | ttl => cases takes
  | _ =>
      cases takes
      rfl

namespace Reader

theorem run_of_step {reader next : Reader} {lexeme : Lexeme}
    (taken : reader.step lexeme = .ok next) (rest : List Lexeme) :
    reader.run (lexeme :: rest) = next.run rest := by
  cases reader with
  | finished request => cases taken
  | _ =>
      rw [run, taken]
      nofun

/-- The first member is read like the later ones. -/
theorem run_firstMember (text : List Symbol) :
    Reader.firstMember.run (Lexeme.scan (some '"' :: text)) =
      (Reader.name {}).run (Lexeme.scan (some '"' :: text)) := by
  obtain ⟨strict, whole, rest, scanned⟩ := Lexeme.scan_quote text
  have same : Reader.firstMember.step (.string strict whole) =
      (Reader.name {}).step (.string strict whole) := rfl
  rw [scanned]
  cases taken : (Reader.name {}).step (.string strict whole) with
  | error refusal => simp [run, same, taken]
  | ok next => rw [run_of_step (same.trans taken), run_of_step taken]

/-- A text that is asked for is read into its member. -/
theorem run_known {members filled : Members} {name content : String} {field : Field}
    (named : Field.ofName? name = some field) (unread : members.has field = false)
    (takes : members.fill? content field = some filled) (rest : List Lexeme) :
    (Reader.name members).run (.string (.ok name) (.ok ()) :: .colon ::
        .string (.ok content) (.ok ()) :: rest) =
      (Reader.memberEnd filled).run rest := by
  have name : (Reader.name members).step (.string (.ok name) (.ok ())) =
      .ok (.colon members (some field)) := by
    simp [step, readName, Except.map, named, unread]
  have value : (Reader.memberValue members field).step (.string (.ok content) (.ok ())) =
      .ok (.memberEnd filled) := by
    rw [step, Members.put_of_fill takes]
    rfl
  rw [run_of_step name, run_of_step rfl, run_of_step value]

/-- A member that a request does not have is passed over. -/
theorem run_unknown (members : Members) {name : String} (unknown : Field.ofName? name = none)
    (strict : Except Refusal Json.Number) (rest : List Lexeme) :
    (Reader.name members).run
        (.string (.ok name) (.ok ()) :: .colon :: .number strict (.ok ()) :: rest) =
      (Reader.memberEnd members).run rest := by
  have named : (Reader.name members).step (.string (.ok name) (.ok ())) =
      .ok (.colon members none) := by
    simp only [step, readName, Except.map, unknown]
  rw [run_of_step named, run_of_step rfl, run_of_step rfl]
  rfl

end Reader

end WriteRequest

/-- The writer and the reader of this project as a library. -/
def plainLibrary : JsonLibrary where
  escape := Json.escape
  value := ReplyValue.render
  write := Reply.render
  string? := Json.string?
  skip? := Json.Number.skip?
  read := WriteRequest.ofText
  readMember members text :=
    WriteRequest.conclude ((Reader.name members).run (Lexeme.scan (some '"' :: text.map some)))
  readOn members text :=
    WriteRequest.conclude ((Reader.memberEnd members).run (Lexeme.scan (text.map some)))

theorem plainLibrary_conforms : plainLibrary.Conforms where
  escape_written := Json.written_escape
  value_text _ := rfl
  value_number _ := rfl
  write_toList reply := String.toList_ofList
  string?_closed := Json.string?_closed
  string?_plain := Json.string?_plain
  string?_short := Json.string?_short
  string?_unicode := Json.string?_unicode
  skip?_number number _ ends rest := Json.Number.skip?_written number ends rest
  read_object {text rest} begins := by
    have symbols : Utf8.symbols text = some '\x7b' :: some '"' :: rest.map some := by
      rw [Utf8.symbols, begins, List.map_cons, List.map_cons]
    change WriteRequest.ofText text = _
    rw [WriteRequest.ofText_eq, symbols, Lexeme.scan_openBrace, Reader.run_of_step rfl,
      Reader.run_firstMember]
    rfl
  readMember_known {members filled field text name content asked rest} begun named unread read
      takes := by
    have scanned := Lexeme.scan_string begun
    rw [List.map_cons, List.map_cons, Lexeme.scan_colon, Lexeme.scan_string read] at scanned
    change WriteRequest.conclude _ = WriteRequest.conclude _
    rw [scanned, Reader.run_known named unread takes]
  readMember_unknown {members text name passed rest} begun unknown skipped := by
    obtain ⟨strict, number⟩ := Lexeme.scan_number skipped
    have scanned := Lexeme.scan_string begun
    rw [List.map_cons, Lexeme.scan_colon, number] at scanned
    change WriteRequest.conclude _ = WriteRequest.conclude _
    rw [scanned, Reader.run_unknown members unknown]
  readOn_comma members rest := by
    change WriteRequest.conclude _ = WriteRequest.conclude _
    rw [List.map_cons, List.map_cons, Lexeme.scan_comma, Reader.run_of_step rfl]
  readOn_end {members key value} keyed valued := by
    have ends : (Reader.memberEnd members).step .closeBrace =
        .ok (.finished { key, value, ttl := members.ttl.getD none }) := by
      rw [Reader.step, Members.request, keyed, valued]
      rfl
    change WriteRequest.conclude ((Reader.memberEnd members).run [.closeBrace]) = _
    rw [Reader.run_of_step ends]
    rfl

/-- Quotes, a backslash, control characters, and the longest time left there is. -/
theorem plainLibrary_reads_back :
    plainLibrary.Conforms ∧
      (plainLibrary.write (.found "a\"b" "\\\n\x01é" (some 18446744073709551615))).toList =
        ("\x7b\"key\":\"a\\\"b\",\"value\":\"\\\\\\n\\u0001é\"," ++
          "\"ttl_remaining_ms\":18446744073709551615\x7d").toList ∧
      plainLibrary.read
          (plainLibrary.write (.found "a\"b" "\\\n\x01é" (some 18446744073709551615))) =
        .ok { key := "a\"b", value := "\\\n\x01é", ttl := none } :=
  ⟨plainLibrary_conforms, by decide +kernel,
    plainLibrary_conforms.reads_back_found "a\"b" "\\\n\x01é" (some 18446744073709551615)⟩

end ExpiringCache
