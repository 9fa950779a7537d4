import Mathlib.Data.List.TakeWhile
import Pullbox.Direct.Transport
import Pullbox.Text.Decimal

/-!
# What the head of a response says of its bytes

The `Content-Range` and `Content-Length` headers as the transport reads them, and the place of
the object at which the body of a response begins. A 206 response that passes the checks of the
transport begins where the transport had asked for.
-/

namespace Pullbox.Direct

open List Nat

open Text (digitValue decimalValue takeWhile_of_not_mem)

/-- The status and headers of a response. A number that `isdigit` accepts and `int` refuses
raises; such an answer is no head but an `unhandled` one. -/
structure HttpResponse where
  statusCode : Nat
  /-- Empty where the header is missing. -/
  contentRange : List Char := []
  contentLength : Option (List Char) := none
  etag : Option String := none
  lastModified : Option String := none
  /-- `filename_from_content_disposition`. -/
  filename : Option String := none

/-- `int` of a text that is `isdigit`. -/
def readNumber (raw : List Char) : Option Nat :=
  if raw ≠ [] ∧ raw.all (fun char => (digitValue char).isSome) then
    some (decimalValue raw)
  else
    none

/-- `partition`, where the separator is there. -/
def partition (separator : Char) (text : List Char) : Option (List Char × List Char) :=
  match text.dropWhile (· ≠ separator) with
  | [] => none
  | _ :: after => some (text.takeWhile (· ≠ separator), after)

/-- `_parse_content_range`. -/
def parseContentRange (value : List Char) : Option (Nat × Nat × Nat) :=
  if "bytes ".toList.isPrefixOf (value.map Char.toLower) then
    match partition '/' (value.drop 6) with
    | none => none
    | some (rawRange, rawTotal) =>
      match readNumber rawTotal, partition '-' rawRange with
      | some total, some (rawStart, rawEnd) =>
        match readNumber rawStart, readNumber rawEnd with
        | some first, some last => some (first, last, total)
        | _, _ => none
      | _, _ => none
  else
    none

namespace HttpResponse

/-- `_valid_bounded_response`. -/
def validBounded (response : HttpResponse) (rangeStart rangeEnd total : Nat)
    (validator : Validator) : Bool :=
  response.statusCode == 206 &&
    parseContentRange response.contentRange == some (rangeStart, rangeEnd, total) &&
    (response.contentLength.all fun raw =>
      raw == [] || readNumber raw == some (rangeEnd - rangeStart + 1)) &&
    !contradicts validator.etag response.etag &&
    !contradicts validator.lastModified response.lastModified

/-- `_valid_partial_response`. -/
def validPartial (response : HttpResponse) (resumeOffset : Nat) :
    Option HttpTransferCheckpoint → Bool
  | none => false
  | some checkpoint =>
    response.statusCode == 206 &&
      ("bytes ".toList ++ toDigits 10 resumeOffset ++ ['-']).isPrefixOf
        (response.contentRange.map Char.toLower) &&
      !contradicts checkpoint.etag response.etag &&
      !contradicts checkpoint.lastModified response.lastModified

/-- `_response_total`. -/
def total (response : HttpResponse) (resumeOffset : Nat) : Option Nat :=
  let length := (response.contentLength.bind readNumber).map (resumeOffset + ·)
  if '/' ∈ response.contentRange then
    let rawTotal := (response.contentRange.reverse.takeWhile (· ≠ '/')).reverse
    (readNumber rawTotal).orElse fun _ => length
  else
    length

/-- The place of the first byte of the body: what a 206 response says, else the beginning. -/
def firstByte (response : HttpResponse) : Nat :=
  if response.statusCode = 206 then
    decimalValue ((response.contentRange.drop 6).takeWhile (· ≠ '-'))
  else
    0

end HttpResponse

/-! ### Reading numbers back -/

variable {char separator : Char} {text left right raw : List Char} {number first last size : Nat}

theorem readNumber_eq_some (read : readNumber raw = some number) : decimalValue raw = number := by
  unfold readNumber at read
  split at read
  · exact Option.some.inj read
  · cases read

theorem partition_eq_some (cut : partition separator text = some (left, right)) :
    text = left ++ separator :: right ∧ separator ∉ left := by
  unfold partition at cut
  have whole : text.takeWhile (· ≠ separator) ++ text.dropWhile (· ≠ separator) = text :=
    takeWhile_append_dropWhile
  cases after : text.dropWhile (· ≠ separator) with
  | nil =>
    rw [after] at cut
    cases cut
  | cons head tail =>
    have here : head = separator := by
      have stopped := List.head?_dropWhile_not (fun char => decide (char ≠ separator)) text
      rw [after] at stopped
      simpa using stopped
    rw [after, here] at whole
    rw [after] at cut
    obtain ⟨rfl, rfl⟩ := Prod.mk.inj (Option.some.inj cut)
    refine ⟨whole.symm, fun inside => ?_⟩
    have kept := mem_takeWhile_imp inside
    simp at kept

/-- The start of a range in full form is the place it names. -/
theorem parseContentRange_first (parsed : parseContentRange raw = some (first, last, size)) :
    decimalValue ((raw.drop 6).takeWhile (· ≠ '-')) = first := by
  unfold parseContentRange at parsed
  split at parsed
  · split at parsed
    · cases parsed
    · rename_i rawRange rawTotal cutTotal
      split at parsed
      · rename_i total rawStart rawEnd _ cutRange
        split at parsed
        · rename_i from_ to_ readStart readEnd
          obtain ⟨rfl, -⟩ := Prod.mk.inj (Option.some.inj parsed)
          obtain ⟨whole, -⟩ := partition_eq_some cutTotal
          obtain ⟨range, absent⟩ := partition_eq_some cutRange
          rw [whole, range, append_assoc, cons_append, takeWhile_of_not_mem absent]
          exact readNumber_eq_some readStart
        · cases parsed
      · cases parsed
  · cases parsed

namespace HttpResponse

variable {response : HttpResponse} {rangeStart rangeEnd resumeOffset total : Nat}
  {validator : Validator} {checkpoint : Option HttpTransferCheckpoint}

/-- A body that begins at the beginning of the object. -/
theorem firstByte_of_ok (whole : response.statusCode = 200) : response.firstByte = 0 := by
  unfold firstByte
  rw [if_neg (by rw [whole]; decide)]

/-- A bounded answer that is taken begins where its range was asked to begin. -/
theorem firstByte_of_validBounded
    (valid : response.validBounded rangeStart rangeEnd total validator = true) :
    response.firstByte = rangeStart := by
  simp only [validBounded, Bool.and_eq_true, beq_iff_eq] at valid
  obtain ⟨⟨⟨⟨partialContent, range⟩, -⟩, -⟩, -⟩ := valid
  unfold firstByte
  rw [if_pos partialContent]
  exact parseContentRange_first range

/-- An answer that continues a partial file begins where the file ends. -/
theorem firstByte_of_validPartial
    (valid : response.validPartial resumeOffset checkpoint = true) :
    response.firstByte = resumeOffset := by
  cases checkpoint with
  | none => cases valid
  | some checkpoint =>
    simp only [validPartial, Bool.and_eq_true, beq_iff_eq, isPrefixOf_iff_prefix] at valid
    obtain ⟨⟨⟨partialContent, front⟩, -⟩, -⟩ := valid
    have digits : ∀ char ∈ toDigits 10 resumeOffset, char.isDigit = true := fun char inside =>
      isDigit_of_mem_toDigits (by decide) (by decide) inside
    have low : ∀ char ∈ toDigits 10 resumeOffset ++ ['-'], char.toNat < 97 := by
      intro char inside
      rcases mem_append.1 inside with digit | dash
      · have bounds : 48 ≤ char.toNat ∧ char.toNat ≤ 57 :=
          Char.isDigit_iff_toNat.1 (digits char digit)
        omega
      · rw [mem_singleton.1 dash]
        decide
    -- the number stands behind the six characters of the unit, whatever their case
    obtain ⟨rest, whole⟩ := front
    have folded : toDigits 10 resumeOffset ++ ['-'] <+:
        (response.contentRange.drop 6).map Char.toLower := by
      refine ⟨rest, ?_⟩
      rw [map_drop, ← whole]
      rfl
    obtain ⟨after, number⟩ := Text.prefix_of_map_toLower low folded
    have absent : '-' ∉ toDigits 10 resumeOffset := fun inside => by
      have digit := digits '-' inside
      revert digit
      decide
    unfold firstByte
    rw [if_pos partialContent, ← number, append_assoc, singleton_append,
      takeWhile_of_not_mem absent, Text.decimalValue_toDigits]

end HttpResponse

end Pullbox.Direct
