import StyleGate.Log.Record
import StyleGate.Proofs.Text.Json

/-!
# Records in JSON

A record in JSON is an object of four strings on one line, and a reader of JSON gets the strings
back. The fields are written with commas between them and read one after the other, so both are
inductions over any list of fields.
-/

namespace StyleGate.Log

open Text Json

/-- Fields with a comma between any two of them. -/
def jsonFields : List (String × String) → Text
  | [] => []
  | [field] => jsonField field.1 field.2
  | field :: next :: fields =>
    jsonField field.1 field.2 ++ (", ".toList ++ jsonFields (next :: fields))

/-- The fields of a record. -/
def Record.fields (time : String) (r : Record) : List (String × String) :=
  [("timestamp", time), ("level", levelName r.level), ("logger", r.channel), ("event", r.message)]

lemma Record.json_eq (time : String) (r : Record) :
    r.json time = '{' :: (jsonFields (r.fields time) ++ ['}']) := by
  simp only [Record.json, Record.fields, jsonFields, List.cons_append, List.append_assoc]

/-! ## Reading the fields -/

lemma jsonField_append (name value : String) (r : Text) :
    jsonField name value ++ r =
      '"' :: (name.toList.flatMap jsonEscape ++ '"' :: ':' :: ' ' :: '"' ::
        (value.toList.flatMap jsonEscape ++ '"' :: r)) := by
  simp [jsonField, jsonString]

lemma member?_jsonField (depth : Nat) (name value : String) (r : Text) :
    member? (value? (depth + 1)) (jsonField name value ++ r) =
      some ((name, .string value), r) := by
  have colon (s : Text) : skip (':' :: s) = ':' :: s := rfl
  have space (s : Text) : skip (' ' :: '"' :: s) = '"' :: s := rfl
  simp only [jsonField_append, member?, string?_flatMap_jsonEscape, colon, space, value?,
    Option.bind_eq_bind, Option.bind_some, Option.map_some]
  rfl

lemma skip_jsonField (name value : String) (r : Text) :
    skip (jsonField name value ++ r) = jsonField name value ++ r := by
  simp only [jsonField_append]
  rfl

/-- The reader gets through any number of fields, one step for each of them. -/
lemma list?_jsonFields (depth : Nat) (field : String × String) (fields : List (String × String))
    {count : Nat} (enough : fields.length < count) (r : Text) :
    list? (member? (value? (depth + 1))) '}' count (jsonFields (field :: fields) ++ '}' :: r) =
      some ((field :: fields).map fun f => (f.1, .string f.2), r) := by
  induction fields generalizing field count with
  | nil =>
    obtain ⟨count, rfl⟩ := Nat.exists_eq_add_of_lt enough
    simp only [jsonFields, list?, skip_jsonField, member?_jsonField, Option.bind_eq_bind,
      Option.bind_some]
    rfl
  | cons next fields ih =>
    simp only [List.length_cons] at enough
    obtain ⟨count, rfl⟩ : ∃ k, count = k + 1 := ⟨count - 1, by omega⟩
    have left : fields.length < count := by omega
    have later := ih next left
    -- the blank after the comma is skipped before the next field
    have blank (s : Text) : list? (member? (value? (depth + 1))) '}' count (' ' :: s) =
        list? (member? (value? (depth + 1))) '}' count s := list?_cons_space _ _ _ _
    have comma (s : Text) : skip (", ".toList ++ s) = ',' :: ' ' :: s := rfl
    simp only [jsonFields, List.append_assoc, list?, skip_jsonField, member?_jsonField, comma,
      blank, later, Option.bind_eq_bind, Option.bind_some]
    rfl

/-- Fields start with the quote of the first name. -/
lemma exists_jsonFields (field : String × String) (fields : List (String × String)) :
    ∃ s, jsonFields (field :: fields) = '"' :: s := by
  cases fields with
  | nil =>
    have written := jsonField_append field.1 field.2 []
    simp only [List.append_nil] at written
    exact ⟨_, written⟩
  | cons next fields => exact ⟨_, jsonField_append _ _ _⟩

lemma length_le_jsonFields (fields : List (String × String)) :
    fields.length ≤ (jsonFields fields).length := by
  fun_induction jsonFields fields with
  | case1 => simp
  | case2 field => simp [jsonField, jsonString]
  | case3 field next fields ih =>
    simp only [List.length_append, List.length_cons] at ih ⊢
    have : 0 < (", ".toList).length := by decide
    omega

/-- An object of strings is read back, whatever its fields. -/
theorem parse?_jsonFields (field : String × String) (fields : List (String × String)) :
    parse? ('{' :: (jsonFields (field :: fields) ++ ['}'])) =
      some (.object ((field :: fields).map fun f => (f.1, .string f.2))) := by
  obtain ⟨s, quote⟩ := exists_jsonFields field fields
  have enough : fields.length < (jsonFields (field :: fields) ++ ['}']).length := by
    have := length_le_jsonFields (field :: fields)
    simp only [List.length_append, List.length_cons] at this ⊢
    omega
  -- the two braces alone make the text long enough for a value inside a value
  have members :=
    list?_jsonFields ((jsonFields (field :: fields)).length + 1) field fields enough []
  have object : value? ((jsonFields (field :: fields)).length + 2 + 1)
      ('{' :: (jsonFields (field :: fields) ++ ['}'])) =
        some (.object ((field :: fields).map fun f => (f.1, .string f.2)), []) := by
    simp only [quote, List.cons_append] at members ⊢
    simp only [value?_brace_quote, members, Option.map_some]
  have brace : skip ('{' :: (jsonFields (field :: fields) ++ ['}'])) =
      '{' :: (jsonFields (field :: fields) ++ ['}']) := rfl
  have bound : ('{' :: (jsonFields (field :: fields) ++ ['}'])).length + 1 =
      (jsonFields (field :: fields)).length + 2 + 1 := by simp
  simp only [parse?, brace, bound, object, Option.bind_eq_bind, Option.bind_some]
  rfl

/-! ## Records -/

lemma printed_jsonField (name value : String) : Printed (jsonField name value) := by
  simp only [jsonField, printed_append]
  exact ⟨⟨printed_jsonString _, by decide⟩, printed_jsonString _⟩

lemma printed_jsonFields (fields : List (String × String)) : Printed (jsonFields fields) := by
  fun_induction jsonFields fields with
  | case1 => exact nofun
  | case2 field => exact printed_jsonField field.1 field.2
  | case3 field next fields ih =>
    simp only [printed_append]
    exact ⟨printed_jsonField field.1 field.2, by decide, ih⟩

/-- The line of a record in JSON holds no control character, and read as JSON it is an object whose
fields are the time, the name of the level, the channel and the message of the record. -/
theorem json_record_reads_back (time : String) (r : Record) :
    (∀ c ∈ (r.render .json time).toList, 0x20 ≤ c.toNat) ∧
    ∃ v, parse? (r.render .json time).toList = some v ∧
      v.field? "level" = some (.string (levelName r.level)) ∧
      v.field? "logger" = some (.string r.channel) ∧
      v.field? "event" = some (.string r.message) ∧
      v.field? "timestamp" = some (.string time) := by
  have line : (r.render .json time).toList = '{' :: (jsonFields (r.fields time) ++ ['}']) := by
    simp only [Record.render, String.toList_ofList, Record.json_eq]
  simp only [line]
  refine ⟨?_, _, parse?_jsonFields _ _, rfl, rfl, rfl, rfl⟩
  have printed : Printed ('{' :: (jsonFields (r.fields time) ++ ['}'])) := by
    simp only [printed_cons, printed_append]
    exact ⟨by decide, printed_jsonFields _, by decide⟩
  exact printed

/-- A message with a line break, a quote, a backslash, a control character and a character beyond
the basic plane, sent to a channel with a quote in its name. -/
def awkwardRecord : Record := ⟨"a\"b", 15, "one\ntwo \"\\\" \x1f 😀"⟩

/-- Its line break is written with a letter, and the message is read back with it. -/
theorem awkward_record_reads_back :
    '\n' ∉ (awkwardRecord.render .json "").toList ∧
    ∃ v, parse? (awkwardRecord.render .json "").toList = some v ∧
      v.field? "level" = some (.string "Level 15") ∧
      v.field? "event" = some (.string "one\ntwo \"\\\" \x1f 😀") := by
  obtain ⟨printed, v, read, level, -, event, -⟩ := json_record_reads_back "" awkwardRecord
  have name : levelName awkwardRecord.level = "Level 15" := by decide +kernel
  refine ⟨fun feed => absurd (printed _ feed) (by decide), v, read, ?_, event⟩
  simp only [level, name]

end StyleGate.Log
