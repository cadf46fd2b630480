import Mathlib.Data.List.Basic
import Mathlib.Tactic.Common

/-!
# Separated values

The text format of records of fields, in the way of Python's `csv` with minimal quoting: a field
that holds one of the format's own characters is put in quotes, with every quote in it doubled.
A record of one empty field is written as an empty field in quotes, since an empty line is the
record without fields.

The reader goes through the text one character at a time.  `read_write` is the round trip: what
is read back are the records that were written, whatever characters their fields hold.

The alphabet is arbitrary.  Of a dialect only this is used, that its four characters are
different; what a field holds is not restricted, so a delimiter or an end of a line may stand in
one.
-/

namespace DcimBackend.Library

/-- The characters of a format of separated values. -/
structure Dialect (α : Type*) where
  delimiter : α
  quote : α
  cr : α
  lf : α
  nodup : [delimiter, quote, cr, lf].Nodup

namespace Dialect

variable {α : Type*} (d : Dialect α)

@[simp] theorem quote_ne : d.quote ≠ d.delimiter ∧ d.quote ≠ d.cr ∧ d.quote ≠ d.lf := by
  have := d.nodup
  grind

@[simp] theorem delimiter_ne : d.delimiter ≠ d.quote ∧ d.delimiter ≠ d.cr ∧ d.delimiter ≠ d.lf := by
  have := d.nodup
  grind

@[simp] theorem cr_ne : d.cr ≠ d.quote := d.quote_ne.2.1.symm

variable [DecidableEq α]

/-! ### The writer -/

/-- A character that no field holds without quotes. -/
def special (c : α) : Bool := c ∈ [d.delimiter, d.quote, d.cr, d.lf]

/-- A character of a field in quotes. -/
def doubled (c : α) : List α := if c = d.quote then [c, c] else [c]

/-- A field in quotes. -/
def quoted (field : List α) : List α := d.quote :: (field.flatMap d.doubled ++ [d.quote])

/-- A field, in quotes if it needs them. -/
def writeField (field : List α) : List α := if field.any d.special then d.quoted field else field

/-- The fields of a record, with delimiters between them. -/
def writeFields : List (List α) → List α
  | [] => []
  | [field] => d.writeField field
  | field :: next :: fields => d.writeField field ++ d.delimiter :: writeFields (next :: fields)

/-- The line of a record. -/
def writeRecord (record : List (List α)) : List α :=
  (if record = [[]] then d.quoted [] else d.writeFields record) ++ [d.cr, d.lf]

/-- The text of some records. -/
def write (records : List (List (List α))) : List α := records.flatMap d.writeRecord

/-! ### The reader -/

/-- Where a reader stands. -/
inductive ReaderState
  | startRecord
  | startField
  | inField
  | inQuotedField
  /-- Behind a quote in a field in quotes: its end, or the first of two. -/
  | quoteInQuotedField
  /-- Behind a carriage return, which a line feed may follow. -/
  | afterCr
deriving DecidableEq

/-- What has been read: records, the fields of the next one, and the characters of its next
field. -/
structure Reader (α : Type*) where
  state : ReaderState := .startRecord
  field : List α := []
  fields : List (List α) := []
  records : List (List (List α)) := []

namespace Reader

variable (r : Reader α)

/-- Another character of the field. -/
def add (c : α) (state : ReaderState) : Reader α := { r with field := r.field ++ [c], state := state }

/-- The field is complete. -/
def saveField : Reader α := { r with field := [], fields := r.fields ++ [r.field] }

/-- The record is complete. -/
def saveRecord (state : ReaderState) : Reader α :=
  { r with fields := [], records := r.records ++ [r.fields], state := state }

/-- Where a line ends: a line feed ends it at once. -/
def lineEnd (c : α) : ReaderState := if c = d.cr then .afterCr else .startRecord

/-- A character where a field starts. -/
def stepStartField (c : α) : Reader α :=
  if c = d.cr ∨ c = d.lf then r.saveField.saveRecord (lineEnd d c)
  else if c = d.quote then { r with state := .inQuotedField }
  else if c = d.delimiter then { r.saveField with state := .startField }
  else r.add c .inField

/-- A character where a record starts.  An empty line is the record without fields. -/
def stepStartRecord (c : α) : Reader α :=
  if c = d.cr ∨ c = d.lf then r.saveRecord (lineEnd d c) else r.stepStartField d c

/-- A character behind the end of a field in quotes, or in a field without. -/
def stepInField (c : α) : Reader α :=
  if c = d.cr ∨ c = d.lf then r.saveField.saveRecord (lineEnd d c)
  else if c = d.delimiter then { r.saveField with state := .startField }
  else r.add c .inField

/-- One character. -/
def step (c : α) : Reader α :=
  match r.state with
  | .startRecord => r.stepStartRecord d c
  | .startField => r.stepStartField d c
  | .inField => r.stepInField d c
  | .inQuotedField =>
      if c = d.quote then { r with state := .quoteInQuotedField } else r.add c .inQuotedField
  | .quoteInQuotedField =>
      if c = d.quote then r.add c .inQuotedField else r.stepInField d c
  | .afterCr =>
      if c = d.lf then { r with state := .startRecord } else r.stepStartRecord d c

/-- A text. -/
def feed (text : List α) : Reader α := text.foldl (step d) r

/-- The end of the text, which ends a record that has begun. -/
def finish : List (List (List α)) :=
  match r.state with
  | .startRecord | .afterCr => r.records
  | _ => (r.saveField.saveRecord .startRecord).records

end Reader

/-- The records of a text. -/
def read (text : List α) : List (List (List α)) :=
  (Reader.feed d {} text).finish

/-! ### The round trip -/

namespace Reader

variable {r : Reader α} {c : α} {text rest : List α}

@[simp] theorem feed_nil : feed d r [] = r := rfl

@[simp] theorem feed_cons : feed d r (c :: text) = feed d (r.step d c) text := rfl

@[simp] theorem feed_append : feed d r (text ++ rest) = feed d (feed d r text) rest :=
  List.foldl_append

end Reader

section RoundTrip

variable {d} {field text : List α} {fields record : List (List α)}
  {records : List (List (List α))}

theorem special_eq_false_iff {c : α} :
    d.special c = false ↔ c ≠ d.delimiter ∧ c ≠ d.quote ∧ c ≠ d.cr ∧ c ≠ d.lf := by
  simp [special]

/-- A doubled quote is a quote, and another character itself. -/
theorem feed_doubled : Reader.feed d ⟨.inQuotedField, field, fields, records⟩
    (text.flatMap d.doubled) = ⟨.inQuotedField, field ++ text, fields, records⟩ := by
  induction text generalizing field with
  | nil => simp
  | cons c text ih =>
      rw [List.flatMap_cons, Reader.feed_append, doubled]
      split
      · rename_i hquote
        simp [hquote, Reader.step, Reader.add, ih]
      · rename_i hquote
        simp [hquote, Reader.step, Reader.add, ih]

/-- Characters of a field without quotes. -/
theorem feed_plain (hplain : ∀ c ∈ text, d.special c = false) :
    Reader.feed d ⟨.inField, field, fields, records⟩ text =
      ⟨.inField, field ++ text, fields, records⟩ := by
  induction text generalizing field with
  | nil => simp
  | cons c text ih =>
      rw [List.forall_mem_cons] at hplain
      obtain ⟨hdelimiter, -, hcr, hlf⟩ := special_eq_false_iff.mp hplain.1
      simp [Reader.step, Reader.stepInField, Reader.add, hdelimiter, hcr, hlf, ih hplain.2]

/-- Where a reader stands behind a written field. -/
def writtenState (d : Dialect α) (field : List α) : ReaderState :=
  if field.any d.special then .quoteInQuotedField
  else if field = [] then .startField
  else .inField

/-- A written field, read from where a field starts. -/
theorem feed_writeField : Reader.feed d ⟨.startField, [], fields, records⟩ (d.writeField field) =
    ⟨d.writtenState field, field, fields, records⟩ := by
  unfold writeField writtenState
  split
  · rw [quoted, Reader.feed_cons, show Reader.step d ⟨.startField, [], fields, records⟩ d.quote =
        ⟨.inQuotedField, [], fields, records⟩ by simp [Reader.step, Reader.stepStartField],
      Reader.feed_append, feed_doubled]
    simp [Reader.step]
  · rename_i hplain
    have hplain : ∀ c ∈ field, d.special c = false := by simpa using hplain
    cases field with
    | nil => rfl
    | cons c text =>
        rw [List.forall_mem_cons] at hplain
        obtain ⟨hdelimiter, hquote, hcr, hlf⟩ := special_eq_false_iff.mp hplain.1
        have hfirst : Reader.step d ⟨.startField, [], fields, records⟩ c =
            ⟨.inField, [c], fields, records⟩ := by
          simp [Reader.step, Reader.stepStartField, Reader.add, hdelimiter, hquote, hcr, hlf]
        rw [Reader.feed_cons, hfirst, feed_plain hplain.2]
        rfl

/-- A delimiter behind a field. -/
theorem step_delimiter :
    Reader.step d ⟨d.writtenState field, field, fields, records⟩ d.delimiter =
      ⟨.startField, [], fields ++ [field], records⟩ := by
  unfold writtenState
  split
  · simp [Reader.step, Reader.stepInField, Reader.saveField]
  · split
    · simp [Reader.step, Reader.stepStartField, Reader.saveField]
    · simp [Reader.step, Reader.stepInField, Reader.saveField]

/-- The end of the line behind a field. -/
theorem feed_lineEnd :
    Reader.feed d ⟨d.writtenState field, field, fields, records⟩ [d.cr, d.lf] =
      ⟨.startRecord, [], [], records ++ [fields ++ [field]]⟩ := by
  unfold writtenState
  split
  · simp [Reader.step, Reader.stepInField, Reader.saveField, Reader.saveRecord, Reader.lineEnd]
  · split
    · simp [Reader.step, Reader.stepStartField, Reader.saveField, Reader.saveRecord,
        Reader.lineEnd]
    · simp [Reader.step, Reader.stepInField, Reader.saveField, Reader.saveRecord, Reader.lineEnd]

/-- The fields of a record, read from where one of them starts. -/
theorem feed_writeFields (hrecord : record ≠ []) :
    Reader.feed d ⟨.startField, [], fields, records⟩ (d.writeFields record ++ [d.cr, d.lf]) =
      ⟨.startRecord, [], [], records ++ [fields ++ record]⟩ := by
  induction record generalizing fields with
  | nil => exact absurd rfl hrecord
  | cons field record ih =>
      cases record with
      | nil => rw [writeFields, Reader.feed_append, feed_writeField, feed_lineEnd]
      | cons next record =>
          rw [writeFields, List.append_assoc, Reader.feed_append, feed_writeField,
            List.cons_append, Reader.feed_cons, step_delimiter, ih (by simp), List.append_assoc]
          rfl

/-- What is written of a record but for an empty field alone begins with no end of a line. -/
theorem exists_writeFields_eq_cons (hrecord : record ≠ []) (hempty : record ≠ [[]]) :
    ∃ c rest, d.writeFields record = c :: rest ∧ c ≠ d.cr ∧ c ≠ d.lf := by
  have hfield : ∀ field : List α, field ≠ [] →
      ∃ c rest, d.writeField field = c :: rest ∧ c ≠ d.cr ∧ c ≠ d.lf := by
    intro field hfield
    unfold writeField
    split
    · exact ⟨d.quote, _, rfl, d.quote_ne.2⟩
    · rename_i hplain
      obtain ⟨c, text, rfl⟩ := List.exists_cons_of_ne_nil hfield
      have hc : d.special c = false := by
        by_contra hspecial
        exact hplain (List.any_eq_true.mpr ⟨c, List.mem_cons_self, by simpa using hspecial⟩)
      exact ⟨c, text, rfl, (special_eq_false_iff.mp hc).2.2⟩
  obtain ⟨field, record, rfl⟩ := List.exists_cons_of_ne_nil hrecord
  by_cases hnil : field = []
  · -- an empty field is not alone: a delimiter follows
    subst hnil
    have hmore : record ≠ [] := fun hnil => hempty (by rw [hnil])
    obtain ⟨next, record, rfl⟩ := List.exists_cons_of_ne_nil hmore
    exact ⟨d.delimiter, d.writeFields (next :: record), rfl, d.delimiter_ne.2⟩
  · obtain ⟨c, rest, hwritten, hc⟩ := hfield field hnil
    cases record with
    | nil => exact ⟨c, rest, hwritten, hc⟩
    | cons next record => exact ⟨c, _, by rw [writeFields, hwritten]; rfl, hc⟩

/-- A record may start as a field may, with a character that ends no line. -/
theorem step_startRecord {c : α} (hc : c ≠ d.cr ∧ c ≠ d.lf) :
    Reader.step d ⟨.startRecord, field, fields, records⟩ c =
      Reader.step d ⟨.startField, field, fields, records⟩ c := by
  simp only [Reader.step, Reader.stepStartRecord, hc.1, hc.2, or_self, if_false]
  rfl

/-- The line of a record. -/
theorem feed_writeRecord : Reader.feed d ⟨.startRecord, [], [], records⟩ (d.writeRecord record) =
    ⟨.startRecord, [], [], records ++ [record]⟩ := by
  unfold writeRecord
  split
  · rename_i hempty
    rw [hempty]
    simp [quoted, Reader.step, Reader.stepStartRecord, Reader.stepStartField, Reader.stepInField,
      Reader.saveField, Reader.saveRecord, Reader.lineEnd]
  · rename_i hempty
    by_cases hrecord : record = []
    · rw [hrecord]
      simp [writeFields, Reader.step, Reader.stepStartRecord, Reader.saveRecord, Reader.lineEnd]
    · obtain ⟨c, rest, hwritten, hc⟩ := exists_writeFields_eq_cons hrecord hempty
      have hread : Reader.feed d ⟨.startField, [], [], records⟩
          (d.writeFields record ++ [d.cr, d.lf]) =
            ⟨.startRecord, [], [], records ++ [[] ++ record]⟩ := feed_writeFields hrecord
      rw [hwritten, List.cons_append, Reader.feed_cons] at hread ⊢
      rw [step_startRecord hc, hread, List.nil_append]

/-- **The round trip**: what is read back are the records that were written. -/
theorem read_write (rows : List (List (List α))) : d.read (d.write rows) = rows := by
  have hfeed : ∀ records, Reader.feed d ⟨.startRecord, [], [], records⟩ (d.write rows) =
      ⟨.startRecord, [], [], records ++ rows⟩ := by
    unfold write
    induction rows with
    | nil => simp
    | cons record rows ih =>
        intro records
        rw [List.flatMap_cons, Reader.feed_append, feed_writeRecord, ih, List.append_assoc]
        rfl
  show (Reader.feed d ⟨.startRecord, [], [], []⟩ (d.write rows)).finish = rows
  rw [hfeed]
  rfl

end RoundTrip

end Dialect

end DcimBackend.Library
