-- SUMMARY: Management requests: the CBOR items of their payload and the loop with which every handler decodes a map.
import TempoBt.Lib.Bytes

/-!
# Management requests

A handler of the management group reads a map of named values. The wire format is
below this model: a request is the list of the map's pairs, in order.
-/

namespace TempoBt

/-- A CBOR item, as far as the handlers tell items apart. -/
inductive CborItem where
  | int (value : Int)
  | tstr (value : Bytes)
  | bool (value : Bool)
  /-- Any other kind. -/
  | other
  deriving DecidableEq

/-- `zcbor_tstr_decode` -/
def CborItem.tstr? : CborItem → Option Bytes
  | .tstr value => some value
  | .int _ | .bool _ | .other => none

/-- `zcbor_uint32_decode` -/
def CborItem.uint32? : CborItem → Option UInt32
  | .int value => if 0 ≤ value ∧ value < 4294967296 then some value.toNat.toUInt32 else none
  | .tstr _ | .bool _ | .other => none

/-- `zcbor_int32_decode` -/
def CborItem.int32? : CborItem → Option Int32
  | .int value => if -2147483648 ≤ value ∧ value < 2147483648 then some (.ofInt value) else none
  | .tstr _ | .bool _ | .other => none

/-- `zcbor_bool_decode` -/
def CborItem.bool? : CborItem → Option Bool
  | .bool value => some value
  | .int _ | .tstr _ | .other => none

/-- The payload of a request: the pairs of a map, or something else. -/
abbrev SmpRequest := Option (List (CborItem × CborItem))

/-- `MGMT_ERR_EUNKNOWN`, `MGMT_ERR_EINVAL` and `MGMT_ERR_EMSGSIZE` -/
inductive MgmtErr where
  | eunknown
  | einval
  | emsgsize
  deriving DecidableEq

section Decoding

variable {α : Type*} (field : Bytes → CborItem → α → Option α)

/-- The loop over a map's pairs: `field` reads the value of each text key. The result
is `none` when a value does not decode, and else comes with the pairs from the first
key on that is no text. -/
def decodeFields : List (CborItem × CborItem) → α → Option (α × List (CborItem × CborItem))
  | (.tstr key, value) :: rest, a => (field key value a).bind (decodeFields rest)
  | rest, a => some (a, rest)

/-- `zcbor_map_start_decode`, the loop, and `zcbor_map_end_decode`. -/
def decodeMap (request : SmpRequest) (a : α) : Option α :=
  request.bind fun pairs =>
    (decodeFields field pairs a).bind fun r => if r.2.isEmpty then some r.1 else none

/-- One branch of a loop's body: a value under `name` is decoded and put in place. -/
def onField {β : Type*} (name : Bytes) (decode : CborItem → Option β) (put : β → α → α)
    (next : Bytes → CborItem → α → Option α) (key : Bytes) (value : CborItem) (a : α) :
    Option α :=
  if key = name then (decode value).map (put · a) else next key value a

/-- The last branch: unknown keys are skipped. -/
def skipField (_ : Bytes) (_ : CborItem) (a : α) : Option α := some a

/-- The values that a map gives under a name, in order. -/
def fieldValues (name : Bytes) (pairs : List (CborItem × CborItem)) : List CborItem :=
  pairs.filterMap fun p => if p.1 = .tstr name then some p.2 else none

variable {field} {β : Type*}

/-- A part of the result that only the values under one name change is what these make
of it, in turn. -/
theorem decodeFields_foldl (π : α → β) (name : Bytes) (step : β → CborItem → β)
    (hname : ∀ v a a', field name v a = some a' → π a' = step (π a) v)
    (hother : ∀ key v a a', key ≠ name → field key v a = some a' → π a' = π a)
    {pairs : List (CborItem × CborItem)} {a a' : α}
    (h : decodeFields field pairs a = some (a', [])) :
    π a' = (fieldValues name pairs).foldl step (π a) := by
  induction pairs generalizing a with
  | nil =>
    cases h
    rfl
  | cons p rest ih =>
    obtain ⟨item, v⟩ := p
    cases item with
    | tstr key =>
      rw [decodeFields, Option.bind_eq_some_iff] at h
      obtain ⟨b, hb, h⟩ := h
      rw [ih h]
      by_cases hkey : key = name
      · subst hkey
        rw [hname v a b hb]
        simp [fieldValues]
      · rw [hother key v a b hkey hb]
        simp [fieldValues, hkey]
    | int _ | bool _ | other => cases h

/-- A part of the result that only the values under one name can set holds the last of
them that it takes. -/
theorem decodeFields_last (π : α → Option β) (name : Bytes) (take : CborItem → Option β)
    (hname : ∀ v a a', field name v a = some a' → π a' = (take v).or (π a))
    (hother : ∀ key v a a', key ≠ name → field key v a = some a' → π a' = π a)
    {pairs : List (CborItem × CborItem)} {a a' : α}
    (h : decodeFields field pairs a = some (a', [])) :
    π a' = ((fieldValues name pairs).filterMap take).getLast?.or (π a) := by
  rw [decodeFields_foldl π name (fun found v => (take v).or found) hname hother h]
  generalize π a = found
  induction fieldValues name pairs generalizing found with
  | nil => simp
  | cons v values ih =>
    rw [List.foldl_cons, ih]
    cases htake : take v <;> simp [htake, List.getLast?_cons]

end Decoding

/-- The items of a map that is read to its end. -/
theorem decodeMap_eq_some {α : Type*} {field : Bytes → CborItem → α → Option α}
    {request : SmpRequest} {a a' : α} (h : decodeMap field request a = some a') :
    ∃ pairs, request = some pairs ∧ decodeFields field pairs a = some (a', []) := by
  obtain ⟨pairs, hpairs, hmap⟩ := Option.bind_eq_some_iff.mp h
  obtain ⟨⟨b, rest⟩, hb, hend⟩ := Option.bind_eq_some_iff.mp hmap
  split at hend
  · rename_i hempty
    cases hend
    have hrest : rest = [] := List.isEmpty_iff.mp hempty
    subst hrest
    exact ⟨pairs, hpairs, hb⟩
  · cases hend

/-- A parameter that is a text; one of the same name given later replaces it, and
other keys are skipped. -/
def textField (name : Bytes) (key : Bytes) (value : CborItem) (text : Option Bytes) :
    Option (Option Bytes) :=
  if key = name then value.tstr?.map some else some text

/-- A request that gives one text parameter. -/
def textRequest (name value : Bytes) : SmpRequest := some [(.tstr name, .tstr value)]

@[simp] theorem decodeMap_textRequest (name value : Bytes) :
    decodeMap (textField name) (textRequest name value) none = some (some value) := by
  simp [decodeMap, textRequest, decodeFields, textField, CborItem.tstr?]

end TempoBt
