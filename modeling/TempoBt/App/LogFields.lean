-- SUMMARY: The comma-separated fields of a log line: its tag, its time stamp, and the split at the commas.
import TempoBt.App.LogFormat

/-!
# Log fields

A log line is a list of fields between commas. The first is the record
identifier; in the device's own records with a time, the second is the time in
milliseconds since the start of the session.
-/

namespace TempoBt

open Bytes Printf

/-- The character between two fields. -/
def comma : UInt8 := 44

/-- The record identifier: all before the first comma. -/
def lineTag (line : Bytes) : Bytes := line.takeWhile (· != comma)

/-- The field after the record identifier. -/
def timestampField (line : Bytes) : Bytes :=
  ((line.dropWhile (· != comma)).drop 1).takeWhile (· != comma)

theorem ne_comma_of_notMem {field : Bytes} (hfield : comma ∉ field) :
    ∀ b ∈ field, (b != comma) = true := by
  intro b hb
  rw [bne_iff_ne]
  rintro rfl
  exact hfield hb

@[simp] theorem lineTag_append {tag : Bytes} (htag : comma ∉ tag) (rest : Bytes) :
    lineTag (tag ++ comma :: rest) = tag := by
  rw [lineTag, List.takeWhile_append_of_pos (ne_comma_of_notMem htag)]
  simp

theorem timestampField_append {tag timestamp : Bytes} (htag : comma ∉ tag)
    (htimestamp : comma ∉ timestamp) (rest : Bytes) :
    timestampField (tag ++ comma :: (timestamp ++ comma :: rest)) = timestamp := by
  rw [timestampField, List.dropWhile_append_of_pos (ne_comma_of_notMem htag)]
  simpa [lineTag] using lineTag_append htimestamp rest

theorem splitOn_field {field : Bytes} (hfield : comma ∉ field) (rest : Bytes) :
    (field ++ comma :: rest).splitOn comma = field :: rest.splitOn comma := by
  rw [List.splitOn_eq_splitOnP, List.splitOn_eq_splitOnP]
  refine List.splitOnP_append_cons_of_forall_mem ?_ comma (by simp) rest
  intro b hb
  simpa using ne_comma_of_notMem hfield b hb

theorem comma_notMem_decimal (n : Nat) : comma ∉ decimal n := by
  intro h
  have hnum : ¬ isNumeral comma := by unfold isNumeral comma; decide
  exact hnum (isNumeral_of_mem_decimal h)

theorem decimal_length_le (x : UInt32) : (decimal x.toNat).length ≤ 10 :=
  length_decimal_le (by decide) (Nat.lt_of_lt_of_le x.toNat_lt (by decide))

end TempoBt
