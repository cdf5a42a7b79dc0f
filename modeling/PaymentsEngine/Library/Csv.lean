import Mathlib.Data.List.Basic
import Mathlib.Data.List.Nodup

/-! # Records of plain fields

A field is plain when it has no delimiter, no quote and no end of a line in it.  Such
fields need no quotes: a record of them is one line, and splitting the text at the
line ends and the delimiters gives the records back.  A serializer may quote other
fields as it likes.
-/

namespace PaymentsEngine.Library.Csv

abbrev Field := List Char

/-- What makes quotes necessary. -/
def special : List Char := [',', '"', '\r', '\n']

def Plain (field : Field) : Prop := ∀ character ∈ field, character ∉ special

/-- The line of a record. -/
def line (fields : List Field) : List Char := [','].intercalate fields ++ ['\n']

def document (records : List (List Field)) : List Char := records.flatMap line

/-- Split a text into lines and the lines into fields. -/
def parse (text : List Char) : List (List Field) :=
  (text.splitOn '\n').dropLast.map fun line => line.splitOn ','

/-- A record that is written as a line: it is not the empty text, and its fields are plain. -/
structure PlainRecord (fields : List Field) : Prop where
  nonempty : fields ≠ []
  notBlank : fields ≠ [[]]
  plain : ∀ field ∈ fields, Plain field

theorem Plain.without_comma {field : Field} (plain : Plain field) : ',' ∉ field := by
  intro member
  exact plain _ member (by simp [special])

theorem Plain.without_newline {field : Field} (plain : Plain field) : '\n' ∉ field := by
  intro member
  exact plain _ member (by simp [special])

/-- Between plain fields stand delimiters only. -/
theorem PlainRecord.line_without_newline {fields : List Field} (record : PlainRecord fields) :
    '\n' ∉ [','].intercalate fields := by
  have plain := record.plain
  clear record
  induction fields with
  | nil => simp
  | cons field fields ih =>
    have first := (plain field (by simp)).without_newline
    have rest := ih fun other member => plain other (by simp [member])
    cases fields with
    | nil => simpa using first
    | cons second fields => simp_all [List.intercalate_cons_cons]

theorem PlainRecord.splitOn_line {fields : List Field} (record : PlainRecord fields) :
    ([','].intercalate fields).splitOn ',' = fields := by
  refine List.splitOn_intercalate _ ?_ record.nonempty
  intro field member
  exact (record.plain field member).without_comma

theorem document_cons (record : List Field) (records : List (List Field)) :
    document (record :: records) = [','].intercalate record ++ '\n' :: document records := by
  simp [document, line]

/-- After the last line end there is one more piece, and it is empty. -/
theorem splitOn_document {records : List (List Field)}
    (plain : ∀ record ∈ records, PlainRecord record) :
    (document records).splitOn '\n' = records.map ([','].intercalate ·) ++ [[]] := by
  induction records with
  | nil => simp [document]
  | cons record records ih =>
    have first := (plain record (by simp)).line_without_newline
    have rest := ih fun other member => plain other (by simp [member])
    rw [document_cons, List.splitOn_append_cons_self_of_not_mem first, rest]
    simp

/-- Reading a document of plain records gives the records back. -/
theorem parse_document {records : List (List Field)} (plain : ∀ record ∈ records, PlainRecord record) :
    parse (document records) = records := by
  rw [parse, splitOn_document plain, List.dropLast_concat, List.map_map]
  conv_rhs => rw [← List.map_id records]
  refine List.map_congr_left ?_
  intro record member
  exact (plain record member).splitOn_line

/-! ## Serializers -/

/-- Writes records; quotes are put around fields where they are necessary only. -/
structure Serializer where
  serialize : List Field → List Char
  serialize_plain : ∀ {fields}, PlainRecord fields → serialize fields = line fields

/-- The serializer that never quotes. -/
def Serializer.bare : Serializer where
  serialize := line
  serialize_plain := fun _ => rfl

theorem Serializer.flatMap_serialize (self : Serializer) {records : List (List Field)}
    (plain : ∀ record ∈ records, PlainRecord record) :
    records.flatMap self.serialize = document records := by
  rw [document, List.flatMap_def, List.flatMap_def]
  congr 1
  refine List.map_congr_left ?_
  intro record member
  exact self.serialize_plain (plain record member)

end PaymentsEngine.Library.Csv
