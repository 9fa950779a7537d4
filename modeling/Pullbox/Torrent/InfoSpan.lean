import Mathlib.Data.List.GetD
import Pullbox.Durable.Results
import Pullbox.Text.Bencode
import Pullbox.Torrent.Metadata

/-!
# The span of the info dictionary

The scanner accepts a descriptor exactly where it is one bencoded dictionary with one `info` entry
that is a dictionary, and the span is that of the entry's own bytes. What the functions say of
positions is stated for the text that stands there.
-/

namespace Pullbox.Torrent

open List Nat

open Durable (bind_eq_ok)
open Text.Bytes (ord isDigit decimal decimalValue)
open Text.Bencode (byteString integer pairs pairs_cons pairs_append dictionary Value)

variable {content text before rest key : List UInt8} {byte : UInt8} {index middle stop depth : Nat}
  {entries : List (List UInt8 × List UInt8)} {keyed : Bool}

/-- This text stands in the bytes, from one position to the other. -/
def Stands (content : List UInt8) (index : Nat) (text : List UInt8) (stop : Nat) : Prop :=
  (∃ rest, content.drop index = text ++ rest) ∧ stop = index + text.length

namespace Stands

theorem nil : Stands content index [] index :=
  ⟨⟨content.drop index, rfl⟩, rfl⟩

/-- Texts that stand next to one another. -/
theorem append (first : Stands content index text middle)
    (second : Stands content middle rest stop) : Stands content index (text ++ rest) stop := by
  obtain ⟨⟨after, here⟩, rfl⟩ := first
  obtain ⟨⟨last, there⟩, rfl⟩ := second
  rw [← drop_drop, here, drop_left] at there
  refine ⟨⟨last, ?_⟩, ?_⟩
  · rw [here, there, append_assoc]
  · rw [length_append]
    omega

theorem split (stands : Stands content index (text ++ rest) stop) :
    Stands content index text (index + text.length) ∧
      Stands content (index + text.length) rest stop := by
  obtain ⟨⟨last, here⟩, rfl⟩ := stands
  refine ⟨⟨⟨rest ++ last, ?_⟩, rfl⟩, ⟨last, ?_⟩, ?_⟩
  · rw [here, append_assoc]
  · rw [← drop_drop, here, append_assoc, drop_left]
  · rw [length_append]
    omega

/-- What stands between two positions is one text. -/
theorem slice_eq (stands : Stands content index text stop) : slice content index stop = text := by
  obtain ⟨⟨last, here⟩, rfl⟩ := stands
  unfold slice
  rw [drop_take, here, Nat.add_sub_cancel_left, take_left]

theorem stop_le (stands : Stands content index text stop) (inhabited : text ≠ []) :
    index < stop ∧ stop ≤ content.length := by
  obtain ⟨⟨last, here⟩, rfl⟩ := stands
  have some := length_pos_iff.2 inhabited
  have lengths := congrArg List.length here
  rw [length_drop, length_append] at lengths
  omega

theorem getD_eq (stands : Stands content index (byte :: text) stop) :
    content.getD index 0 = byte := by
  obtain ⟨⟨last, here⟩, rfl⟩ := stands
  have first := congrArg (·[0]?) here
  simp only [List.getElem?_drop, Nat.add_zero, cons_append, List.getElem?_cons_zero] at first
  rw [getD_eq_getElem?_getD, first, Option.getD_some]

end Stands

/-- Each position inside is one byte. -/
theorem stands_getD (inside : index < content.length) :
    Stands content index [content.getD index 0] (index + 1) := by
  refine ⟨⟨content.drop (index + 1), ?_⟩, rfl⟩
  rw [drop_eq_getElem_cons inside, getD_eq_getElem _ _ inside]
  rfl

/-! ### Single steps -/

theorem find_sound {place : Nat} {later : index ≤ place}
    (found : find content byte index = some ⟨place, later⟩) :
    ∃ text, byte ∉ text ∧ Stands content index text place ∧
      Stands content place [byte] (place + 1) := by
  obtain ⟨offset, first, same⟩ := Option.map_eq_some_iff.1 found
  obtain rfl : index + offset = place := congrArg Subtype.val same
  obtain ⟨inside, equal, others⟩ := List.findIdx?_eq_some_iff_getElem.1 first
  refine ⟨(content.drop index).take offset, ?_, ⟨⟨(content.drop index).drop offset, ?_⟩, ?_⟩, ?_⟩
  · intro inText
    obtain ⟨position, bound, here⟩ := getElem_of_mem inText
    rw [length_take] at bound
    have other := others position (by omega)
    rw [getElem_take] at here
    rw [here] at other
    simp at other
  · exact (take_append_drop _ _).symm
  · rw [length_take]
    omega
  · rw [length_drop] at inside
    rw [getElem_drop, beq_iff_eq] at equal
    have stands := stands_getD (show index + offset < content.length by omega)
    rw [getD_eq_getElem _ _ (by omega), equal] at stands
    exact stands

theorem find_complete (absent : byte ∉ text)
    (stands : Stands content index (text ++ byte :: rest) stop) :
    find content byte index = some ⟨index + text.length, le_add_right _ _⟩ := by
  obtain ⟨⟨last, here⟩, -⟩ := stands
  unfold find
  have first : (content.drop index).findIdx? (· == byte) = some text.length := by
    rw [here, append_assoc, List.findIdx?_append, List.findIdx?_eq_none_iff.2]
    · simp [List.findIdx?_cons]
    · intro other inside
      rw [beq_eq_false_iff_ne]
      rintro rfl
      exact absent inside
  rw [first]
  rfl

theorem isLength_eq : isLength text = Text.Bytes.isCanonical text := by
  have head : ((text.map Text.Bytes.chr).head? == some '0') = (text.head? == some (ord '0')) := by
    cases text with
    | nil => rfl
    | cons first others =>
      rw [map_cons, List.head?_cons, List.head?_cons, Bool.eq_iff_iff]
      simp only [beq_iff_eq, Option.some.injEq]
      constructor
      · rintro same
        rw [← same, Text.Bytes.ord_chr]
      · rintro rfl
        rfl
  have digits : (text.map Text.Bytes.chr).all Char.isDigit = text.all isDigit := by
    rw [all_map]
    exact congrArg text.all (funext fun _ => Text.Bytes.isDigit_chr)
  unfold isLength Text.Bytes.isCanonical Text.isCanonical
  rw [head, digits, length_map]
  cases text with
  | nil => rfl
  | cons first others => simp [Bool.and_assoc]

/-- `_parse_bencoded_bytes` reads one byte string. -/
theorem parse_sound {later : index < stop}
    (parsed : parseBencodedBytes content index = .ok (key, ⟨stop, later⟩)) :
    Stands content index (byteString key) stop := by
  unfold parseBencodedBytes at parsed
  split at parsed
  · cases parsed
  · rename_i colon after found
    obtain ⟨raw, -, stands, marked⟩ := find_sound found
    have same := stands.slice_eq
    simp only at parsed
    split at parsed
    · rename_i length
      split at parsed
      · cases parsed
      · rename_i fits
        obtain ⟨rfl, stops⟩ := Prod.mk.inj (Except.ok.inj parsed)
        have ends : colon + 1 + decimalValue (slice content index colon) = stop :=
          congrArg Subtype.val stops
        rw [ends] at fits ⊢
        rw [same] at ends length
        rw [isLength_eq] at length
        have size : (slice content (colon + 1) stop).length = decimalValue raw := by
          unfold slice
          rw [length_drop, length_take]
          omega
        have body : Stands content (colon + 1) (slice content (colon + 1) stop) stop := by
          refine ⟨⟨content.drop stop, ?_⟩, by rw [size, ends]⟩
          unfold slice
          have tail : content.drop (colon + 1 + decimalValue raw) =
              (content.drop (colon + 1)).drop (decimalValue raw) := drop_drop.symm
          rw [← ends, drop_take, Nat.add_sub_cancel_left, tail, take_append_drop]
        unfold byteString
        rw [size, Text.Bytes.decimal_decimalValue length]
        exact stands.append (marked.append body)
    · cases parsed

theorem parse_complete (stands : Stands content index (byteString key) stop)
    (later : index < stop) :
    parseBencodedBytes content index = .ok (key, ⟨stop, later⟩) := by
  have colon : ord ':' ∉ decimal key.length := by
    intro inside
    have digit := Text.Bytes.isDigit_of_mem_decimal inside
    revert digit
    decide
  unfold byteString at stands
  have found := find_complete colon stands
  obtain ⟨length, others⟩ := stands.split
  obtain ⟨mark, body⟩ := (show Stands content (index + (decimal key.length).length)
    ([ord ':'] ++ key) stop from others).split
  have fits : stop ≤ content.length := (stands.stop_le (by simp)).2
  have ends : index + (decimal key.length).length + 1 + key.length = stop := body.2.symm
  unfold parseBencodedBytes
  rw [found]
  simp only [length.slice_eq, isLength_eq, Text.Bytes.isCanonical_decimal, if_true,
    Text.Bytes.decimalValue_decimal, ends]
  rw [if_neg (by omega)]
  have content : slice content (index + (decimal key.length).length + 1) stop = key :=
    body.slice_eq
  simp [content]

theorem isInteger_minus :
    isInteger (ord '-' :: text) = true ↔
      Text.Bytes.isCanonical text = true ∧ text ≠ [ord '0'] := by
  rw [← isLength_eq]
  simp [isInteger, isLength, and_assoc]

theorem isInteger_plain (unsigned : text.head? ≠ some (ord '-')) :
    isInteger text = true ↔ Text.Bytes.isCanonical text = true := by
  rw [← isLength_eq]
  have other : text ≠ [ord '-', ord '0'] := by
    rintro rfl
    exact unsigned rfl
  simp [isInteger, isLength, unsigned, other]

/-- What `_skip_bencoded_value` accepts between the letters is what an integer has there. -/
theorem isInteger_iff :
    isInteger text = true ↔ ∃ number : Int, integer number = ord 'i' :: text ++ [ord 'e'] := by
  constructor
  · intro accepted
    by_cases signed : text.head? = some (ord '-')
    · obtain ⟨digits, rfl⟩ : ∃ digits, text = ord '-' :: digits := by
        cases text with
        | nil => cases signed
        | cons first digits => exact ⟨digits, by rw [Option.some.inj signed]⟩
      obtain ⟨canonical, positive⟩ := isInteger_minus.1 accepted
      have same := Text.Bytes.decimal_decimalValue canonical
      cases value : decimalValue digits with
      | zero =>
        rw [value] at same
        exact absurd same.symm positive
      | succ number =>
        rw [value] at same
        exact ⟨.negSucc number, by rw [integer, same]⟩
    · have same := Text.Bytes.decimal_decimalValue ((isInteger_plain signed).1 accepted)
      exact ⟨.ofNat (decimalValue text), by rw [integer, same]⟩
  · rintro ⟨number, written⟩
    cases number with
    | ofNat number =>
      have same : decimal number = text :=
        append_cancel_right (List.cons.inj written).2
      rw [← same]
      refine (isInteger_plain ?_).2 Text.Bytes.isCanonical_decimal
      intro minus
      have digit := Text.Bytes.isDigit_of_mem_decimal (mem_of_mem_head? minus)
      revert digit
      decide
    | negSucc number =>
      have same : ord '-' :: decimal (number + 1) = text :=
        append_cancel_right (List.cons.inj written).2
      rw [← same]
      refine isInteger_minus.2 ⟨Text.Bytes.isCanonical_decimal, ?_⟩
      intro zero
      have value : decimalValue (decimal (number + 1)) = decimalValue [ord '0'] :=
        congrArg decimalValue zero
      rw [Text.Bytes.decimalValue_decimal] at value
      have none : decimalValue [ord '0'] = 0 := by decide
      omega

/-! ### Values -/

/-- The entries of a collection, as they stand in it: with keys in a dictionary, without in a list. -/
def items (keyed : Bool) (entries : List (List UInt8 × List UInt8)) : List UInt8 :=
  entries.flatMap fun entry => (if keyed then byteString entry.1 else []) ++ entry.2

theorem items_cons {entry : List UInt8 × List UInt8} :
    items keyed (entry :: entries) =
      (if keyed then byteString entry.1 else []) ++ entry.2 ++ items keyed entries :=
  rfl

theorem items_list :
    items false entries = (entries.map Prod.snd).flatten := by
  simp [items, List.flatMap]

theorem skipKey_sound {cursor : Nat} {value : {value : Nat // cursor ≤ value}}
    (skipped : skipKey content keyed cursor = .ok value) :
    ∃ key, Stands content cursor (if keyed then byteString key else []) value.1 := by
  cases keyed with
  | false =>
    obtain rfl := Except.ok.inj skipped
    exact ⟨[], .nil⟩
  | true =>
    obtain ⟨⟨key, stop, later⟩, parsed, rfl⟩ := Durable.of_map_ok skipped
    exact ⟨key, parse_sound parsed⟩

/-- The bytes passed over are a value, and those of the loop are entries with their end. By
induction on the bytes that are left. -/
theorem skip_sound (size : Nat) :
    (∀ {index depth : Nat} {stop : After index}, 2 * (content.length - index) < size →
      skipBencodedValue content index depth = .ok stop →
        ∃ text, Value depth text ∧ Stands content index text stop.1) ∧
    (∀ {keyed : Bool} {cursor depth : Nat} {stop : After cursor},
      2 * (content.length - cursor) + 1 < size →
      skipItems content keyed cursor depth = .ok stop →
        ∃ entries, (∀ entry ∈ entries, Value (depth + 1) entry.2) ∧
          Stands content cursor (items keyed entries ++ [ord 'e']) stop.1) := by
  induction size with
  | zero => exact ⟨fun small => absurd small (not_lt_zero _),
      fun small => absurd small (not_lt_zero _)⟩
  | succ size ih =>
    obtain ⟨values, collections⟩ := ih
    constructor
    · intro index depth stop small skipped
      unfold skipBencodedValue at skipped
      split at skipped
      · cases skipped
      · rename_i outside
        have shallow : depth ≤ Text.Bencode.maxDepth := by
          unfold Text.Bencode.maxDepth
          omega
        have marked := stands_getD (show index < content.length by omega)
        simp only at skipped
        split at skipped
        · obtain ⟨⟨key, stop, later⟩, parsed, rfl⟩ := Durable.of_map_ok skipped
          exact ⟨byteString key, .byteString key shallow, parse_sound parsed⟩
        · split at skipped
          · rename_i letter
            split at skipped
            · cases skipped
            · rename_i last later found
              obtain ⟨text, -, stands, ends⟩ := find_sound found
              rw [stands.slice_eq] at skipped
              split at skipped
              · rename_i accepted
                obtain ⟨number, written⟩ := isInteger_iff.1 accepted
                obtain rfl := Except.ok.inj skipped
                rw [letter] at marked
                refine ⟨integer number, .integer number shallow, ?_⟩
                rw [written]
                exact marked.append (stands.append ends)
              · cases skipped
          · split at skipped
            · rename_i letter
              obtain ⟨next, looped, rfl⟩ := Durable.of_map_ok skipped
              obtain ⟨entries, deeper, stands⟩ := collections (by omega) looped
              have whole := marked.append stands
              rcases letter with list | dict
              · have unkeyed : (ord 'l' == ord 'd') = false := by decide
                rw [list, unkeyed, items_list] at whole
                refine ⟨_, .list (entries.map Prod.snd) shallow ?_, whole⟩
                intro item inside
                obtain ⟨entry, member, rfl⟩ := mem_map.1 inside
                exact deeper entry member
              · rw [dict, beq_self_eq_true] at whole
                exact ⟨_, .dictionary entries shallow deeper, whole⟩
            · cases skipped
    · intro keyed cursor depth stop small skipped
      unfold skipItems at skipped
      split at skipped
      · cases skipped
      · rename_i outside
        have marked := stands_getD (show cursor < content.length by omega)
        split at skipped
        · rename_i letter
          obtain rfl := Except.ok.inj skipped
          rw [letter] at marked
          exact ⟨[], fun entry member => absurd member not_mem_nil, marked⟩
        · obtain ⟨⟨value, later⟩, keySkipped, skipped⟩ := bind_eq_ok.1 skipped
          obtain ⟨⟨next, further⟩, valueSkipped, skipped⟩ := bind_eq_ok.1 skipped
          obtain ⟨⟨last, ends⟩, looped, made⟩ := bind_eq_ok.1 skipped
          obtain rfl := Except.ok.inj made
          obtain ⟨key, keyStands⟩ := skipKey_sound keySkipped
          obtain ⟨text, isValue, stands⟩ := values (by omega) valueSkipped
          obtain ⟨entries, deeper, others⟩ := collections (by omega) looped
          refine ⟨(key, text) :: entries, ?_, ?_⟩
          · intro entry member
            rcases mem_cons.1 member with rfl | member
            · exact isValue
            · exact deeper entry member
          · rw [items_cons, append_assoc, append_assoc]
            exact keyStands.append (stands.append others)

/-! ### All values are passed over -/

/-- The scanner passes over this text wherever it stands. -/
def Passes (content : List UInt8) (depth : Nat) (text : List UInt8) : Prop :=
  ∀ {index stop : Nat} (later : index < stop), Stands content index text stop →
    skipBencodedValue content index depth = .ok ⟨stop, later⟩

/-- The first byte of a text, which ends no collection. -/
def Opens (text : List UInt8) : Prop :=
  ∃ first rest, text = first :: rest ∧ first ≠ ord 'e'

theorem opens_byteString (key : List UInt8) :
    Opens (byteString key) ∧ ∃ first rest, byteString key = first :: rest ∧
    isDigit first = true := by
  unfold byteString
  cases digits : decimal key.length with
  | nil => exact absurd digits Text.Bytes.decimal_ne_nil
  | cons first others =>
    have digit : isDigit first = true :=
      Text.Bytes.isDigit_of_mem_decimal (digits ▸ mem_cons_self)
    refine ⟨⟨first, _, rfl, ?_⟩, first, _, rfl, digit⟩
    rintro rfl
    revert digit
    decide

theorem opens_value (value : Value depth text) : Opens text := by
  cases value with
  | byteString content _ => exact (opens_byteString content).1
  | integer number _ =>
    cases number with
    | ofNat number => exact ⟨ord 'i', _, rfl, by decide⟩
    | negSucc number => exact ⟨ord 'i', _, rfl, by decide⟩
  | list items _ _ => exact ⟨ord 'l', _, rfl, by decide⟩
  | dictionary entries _ _ => exact ⟨ord 'd', _, rfl, by decide⟩

theorem skipKey_complete (later : index ≤ middle)
    (stands : Stands content index (if keyed then byteString key else []) middle) :
    skipKey content keyed index = .ok ⟨middle, later⟩ := by
  cases keyed with
  | false =>
    obtain rfl : middle = index := stands.2
    rfl
  | true =>
    have inhabited : byteString key ≠ [] := by
      obtain ⟨⟨_, _, shape, _⟩, _⟩ := opens_byteString key
      simp [shape]
    have strict := stands.stop_le inhabited
    unfold skipKey
    rw [if_pos rfl, parse_complete stands strict.1]
    rfl

/-- The loop passes over entries whose values are passed over, to behind their end. -/
theorem skipItems_complete (opens : ∀ entry ∈ entries, Opens entry.2)
    (passes : ∀ entry ∈ entries, Passes content (depth + 1) entry.2) (later : index < stop)
    (stands : Stands content index (items keyed entries ++ [ord 'e']) stop) :
    skipItems content keyed index depth = .ok ⟨stop, later⟩ := by
  induction entries generalizing index with
  | nil =>
    have inside := stands.stop_le (by simp)
    have marked : content.getD index 0 = ord 'e' := stands.getD_eq
    obtain rfl : stop = index + 1 := stands.2
    unfold skipItems
    rw [dif_neg (by omega), if_pos marked]
  | cons entry entries ih =>
    obtain ⟨first, rest, shape, notEnd⟩ :
        Opens ((if keyed then byteString entry.1 else []) ++ entry.2) := by
      cases keyed with
      | false => exact opens entry mem_cons_self
      | true =>
        obtain ⟨first, rest, shape, notEnd⟩ := (opens_byteString entry.1).1
        exact ⟨first, rest ++ entry.2, by rw [if_pos rfl, shape]; rfl, notEnd⟩
    obtain ⟨one, others, opened, -⟩ := opens entry mem_cons_self
    rw [items_cons] at stands
    have inside := stands.stop_le (by simp)
    have marked : content.getD index 0 = first := by
      rw [shape] at stands
      exact stands.getD_eq
    rw [append_assoc, append_assoc] at stands
    obtain ⟨key, stands⟩ := stands.split
    obtain ⟨value, stands⟩ := stands.split
    have further := value.stop_le (by rw [opened]; simp)
    have last := stands.stop_le (by simp)
    have passed := passes entry mem_cons_self further.1 value
    have looped := ih (fun other member => opens other (mem_cons_of_mem _ member))
      (fun other member => passes other (mem_cons_of_mem _ member)) last.1 stands
    unfold skipItems
    rw [dif_neg (by omega), if_neg (marked ▸ notEnd)]
    exact bind_eq_ok.2 ⟨_, skipKey_complete (le_add_right _ _) key,
      bind_eq_ok.2 ⟨_, passed, bind_eq_ok.2 ⟨_, looped, rfl⟩⟩⟩

theorem passes_collection (keyed : Bool) {marker : UInt8} (shallow : depth ≤ Text.Bencode.maxDepth)
    (letter : marker = if keyed then ord 'd' else ord 'l')
    (opens : ∀ entry ∈ entries, Opens entry.2)
    (passes : ∀ entry ∈ entries, Passes content (depth + 1) entry.2) :
    Passes content depth (marker :: items keyed entries ++ [ord 'e']) := by
  intro index stop later stands
  have inside := stands.stop_le (by simp)
  have marked : content.getD index 0 = marker := stands.getD_eq
  have body : Stands content (index + 1) (items keyed entries ++ [ord 'e']) stop :=
    (show Stands content index ([marker] ++ (items keyed entries ++ [ord 'e'])) stop from
      stands).split.2
  have looped := skipItems_complete opens passes (body.stop_le (by simp)).1 body
  have kind : isDigit marker = false ∧ marker ≠ ord 'i' ∧ (marker = ord 'l' ∨ marker = ord 'd') ∧
      (marker == ord 'd') = keyed := by
    rw [letter]
    cases keyed <;> decide
  obtain ⟨noDigit, noInteger, collection, same⟩ := kind
  unfold Text.Bencode.maxDepth at shallow
  unfold skipBencodedValue
  rw [dif_neg (by omega)]
  simp only [marked, noDigit, noInteger, collection, same, looped, if_true, if_false]
  rfl

/-- A value is passed over, wherever it stands. By induction on the value. -/
theorem passes_value (value : Value depth text) : Passes content depth text := by
  induction value with
  | byteString key shallow =>
    intro index stop later stands
    obtain ⟨-, first, rest, shape, digit⟩ := opens_byteString key
    have inside := stands.stop_le (by rw [shape]; simp)
    have marked : content.getD index 0 = first := by
      have shaped := stands
      rw [shape] at shaped
      exact shaped.getD_eq
    unfold Text.Bencode.maxDepth at shallow
    unfold skipBencodedValue
    rw [dif_neg (by omega)]
    simp only [marked, digit, if_true, parse_complete stands later]
    rfl
  | integer number shallow =>
    intro index stop later stands
    obtain ⟨text, shape, absent⟩ : ∃ text, integer number = ord 'i' :: text ++ [ord 'e'] ∧
        ord 'e' ∉ text := by
      have plain {number : Nat} : ord 'e' ∉ decimal number := by
        intro inside
        have digit := Text.Bytes.isDigit_of_mem_decimal inside
        revert digit
        decide
      cases number with
      | ofNat number => exact ⟨_, rfl, plain⟩
      | negSucc number =>
        refine ⟨ord '-' :: decimal (number + 1), rfl, ?_⟩
        rw [mem_cons, not_or]
        exact ⟨by decide, plain⟩
    rw [shape] at stands
    have inside := stands.stop_le (by simp)
    have marked : content.getD index 0 = ord 'i' := stands.getD_eq
    have body : Stands content (index + 1) (text ++ [ord 'e']) stop :=
      (show Stands content index ([ord 'i'] ++ (text ++ [ord 'e'])) stop from stands).split.2
    have same : slice content (index + 1) (index + 1 + text.length) = text :=
      body.split.1.slice_eq
    have ends : index + 1 + text.length + 1 = stop := body.split.2.2.symm
    have noDigit : isDigit (ord 'i') = false := by decide
    unfold Text.Bencode.maxDepth at shallow
    unfold skipBencodedValue
    rw [dif_neg (by omega)]
    simp only [marked, noDigit, find_complete absent body, same, isInteger_iff.2 ⟨number, shape⟩,
      ends, if_true, Bool.false_eq_true, if_false]
  | list items shallow values ih =>
    have flat : Pullbox.Torrent.items false (items.map fun item => ([], item)) = items.flatten := by
      rw [items_list, map_map]
      exact congrArg List.flatten (map_id _)
    rw [← flat]
    apply passes_collection false shallow rfl
    · intro entry member
      obtain ⟨item, inside, rfl⟩ := mem_map.1 member
      exact opens_value (values item inside)
    · intro entry member
      obtain ⟨item, inside, rfl⟩ := mem_map.1 member
      exact ih item inside
  | dictionary entries shallow values ih =>
    exact passes_collection true shallow rfl
      (fun entry member => opens_value (values entry member)) ih

/-! ### The descriptor -/

def infoKey : List UInt8 :=
  "info".toList.map ord

/-- The bytes are one dictionary with one `info`, whose value is this one, a dictionary, and stands
at this span. -/
def Descriptor (content info : List UInt8) (start stop : Nat) : Prop :=
  ∃ before after, content = dictionary (before ++ (infoKey, info) :: after) ∧
    (∀ entry ∈ before ++ (infoKey, info) :: after, Value 1 entry.2) ∧
    (∀ entry ∈ before ++ after, entry.1 ≠ infoKey) ∧ (∃ entries, info = dictionary entries) ∧
    start = 1 + (pairs before ++ byteString infoKey).length ∧ stop = start + info.length

/-- The span that the loop knows once it passed over these entries; `none` where it found a second
`info`. -/
def spanAfter : Nat → Option (Nat × Nat) → List (List UInt8 × List UInt8) →
    Option (Option (Nat × Nat))
  | _, span, [] => some span
  | index, span, (key, value) :: rest =>
    let start := index + (byteString key).length
    let next := start + value.length
    if key = infoKey then
      if span.isSome then none else spanAfter next (some (start, next)) rest
    else
      spanAfter next span rest

theorem spanAfter_known {span : Nat × Nat}
    {result : Option (Nat × Nat)} :
    spanAfter index (some span) entries = some result ↔
      (∀ entry ∈ entries, entry.1 ≠ infoKey) ∧ result = some span := by
  induction entries generalizing index with
  | nil => simp [spanAfter, eq_comm]
  | cons entry entries ih =>
    obtain ⟨key, value⟩ := entry
    by_cases isInfo : key = infoKey
    · simp [spanAfter, isInfo]
    · simp [spanAfter, isInfo, ih]

theorem spanAfter_unknown (index : Nat) {start : Nat} :
    spanAfter index none entries = some (some (start, stop)) ↔
      ∃ before info after, entries = before ++ (infoKey, info) :: after ∧
        (∀ entry ∈ before ++ after, entry.1 ≠ infoKey) ∧
        start = index + (pairs before ++ byteString infoKey).length ∧
        stop = start + info.length := by
  induction entries generalizing index with
  | nil => simp [spanAfter]
  | cons entry entries ih =>
    obtain ⟨key, value⟩ := entry
    by_cases isInfo : key = infoKey
    · subst isInfo
      simp only [spanAfter, if_true, Option.isSome_none, Bool.false_eq_true, if_false,
        spanAfter_known]
      constructor
      · rintro ⟨others, same⟩
        obtain ⟨rfl, rfl⟩ := Prod.mk.inj (Option.some.inj same)
        exact ⟨[], value, entries, rfl, others, by simp, rfl⟩
      · rintro ⟨before, info, after, shape, others, rfl, rfl⟩
        cases before with
        | nil =>
          obtain ⟨same, rfl⟩ := List.cons.inj shape
          obtain ⟨-, rfl⟩ := Prod.mk.inj same
          exact ⟨others, by simp⟩
        | cons head before =>
          obtain ⟨rfl, -⟩ := List.cons.inj shape
          exact absurd rfl (others _ mem_cons_self)
    · simp only [spanAfter, isInfo, if_false, ih]
      constructor
      · rintro ⟨before, info, after, rfl, others, rfl, rfl⟩
        refine ⟨(key, value) :: before, info, after, rfl, ?_, ?_, rfl⟩
        · intro entry member
          rcases mem_cons.1 member with rfl | member
          · exact isInfo
          · exact others entry member
        · simp only [pairs_cons, length_append]
          omega
      · rintro ⟨before, info, after, shape, others, rfl, rfl⟩
        cases before with
        | nil =>
          obtain ⟨same, -⟩ := List.cons.inj shape
          exact absurd (Prod.mk.inj same).1 isInfo
        | cons head before =>
          obtain ⟨rfl, rfl⟩ := List.cons.inj shape
          refine ⟨before, info, after, rfl,
            fun entry member => others entry (mem_cons_of_mem _ member), ?_, rfl⟩
          simp only [pairs_cons, length_append]
          omega

/-- What the loop accepts are entries up to its end. By induction on the bytes that are left. -/
theorem scan_sound (size : Nat) {infoSpan span : Option (Nat × Nat)}
    (small : content.length - index < size)
    (scanned : scanEntries content index infoSpan = .ok (stop, span)) :
    ∃ entries, (∀ entry ∈ entries, Value 1 entry.2) ∧ Stands content index (pairs entries) stop ∧
      spanAfter index infoSpan entries = some span := by
  induction size generalizing index infoSpan with
  | zero => exact absurd small (not_lt_zero _)
  | succ size ih =>
    unfold scanEntries at scanned
    split at scanned
    · obtain ⟨rfl, rfl⟩ := Prod.mk.inj (Except.ok.inj scanned)
      exact ⟨[], fun entry member => absurd member not_mem_nil, .nil, rfl⟩
    · rename_i inside
      split at scanned
      · obtain ⟨rfl, rfl⟩ := Prod.mk.inj (Except.ok.inj scanned)
        exact ⟨[], fun entry member => absurd member not_mem_nil, .nil, rfl⟩
      · obtain ⟨⟨key, valueStart, later⟩, parsed, scanned⟩ := bind_eq_ok.1 scanned
        obtain ⟨⟨next, further⟩, skipped, scanned⟩ := bind_eq_ok.1 scanned
        have keyStands := parse_sound parsed
        obtain ⟨text, isValue, stands⟩ := (skip_sound _).1 (lt_succ_self _) skipped
        obtain rfl : valueStart = index + (byteString key).length := keyStands.2
        obtain rfl : next = index + (byteString key).length + text.length := stands.2
        have listed {entries : List (List UInt8 × List UInt8)}
            (values : ∀ entry ∈ entries, Value 1 entry.2) :
            ∀ entry ∈ (key, text) :: entries, Value 1 entry.2 := by
          intro entry member
          rcases mem_cons.1 member with rfl | member
          · exact isValue
          · exact values entry member
        simp only at scanned
        split at scanned
        · rename_i isInfo
          split at scanned
          · cases scanned
          · rename_i first
            obtain ⟨entries, values, others, found⟩ := ih (by omega) scanned
            refine ⟨(key, text) :: entries, listed values,
              (keyStands.append stands).append others, ?_⟩
            have isKey : key = infoKey := isInfo
            simp only [spanAfter, if_pos isKey, if_neg first, found]
        · rename_i other
          obtain ⟨entries, values, others, found⟩ := ih (by omega) scanned
          refine ⟨(key, text) :: entries, listed values,
            (keyStands.append stands).append others, ?_⟩
          have notKey : ¬ key = infoKey := other
          simp only [spanAfter, if_neg notKey, found]

/-- The loop passes over entries, to the end behind them. -/
theorem scan_complete {infoSpan span : Option (Nat × Nat)}
    (values : ∀ entry ∈ entries, Value 1 entry.2)
    (stands : Stands content index (pairs entries ++ [ord 'e']) stop)
    (found : spanAfter index infoSpan entries = some span) :
    scanEntries content index infoSpan = .ok (stop - 1, span) := by
  induction entries generalizing index infoSpan with
  | nil =>
    obtain rfl := Option.some.inj found
    have inside := stands.stop_le (by simp)
    have marked : content.getD index 0 = ord 'e' := stands.getD_eq
    obtain rfl : stop = index + 1 := stands.2
    unfold scanEntries
    rw [if_neg (by omega), if_pos marked]
    rfl
  | cons entry entries ih =>
    obtain ⟨key, value⟩ := entry
    obtain ⟨⟨first, rest, shape, notEnd⟩, -⟩ := opens_byteString key
    obtain ⟨one, others, opened, -⟩ := opens_value (values _ mem_cons_self)
    have inside := stands.stop_le (by simp)
    rw [pairs_cons, append_assoc, append_assoc] at stands
    have marked : content.getD index 0 = first := by
      have shaped := stands
      rw [shape] at shaped
      exact shaped.getD_eq
    obtain ⟨keyStands, stands⟩ := stands.split
    obtain ⟨valueStands, stands⟩ := stands.split
    have later := keyStands.stop_le (by rw [shape]; simp)
    have further := valueStands.stop_le (by rw [opened]; simp)
    have skipped := passes_value (values _ mem_cons_self) further.1 valueStands
    have tail := fun other member => values other (mem_cons_of_mem _ member)
    unfold scanEntries
    rw [if_neg (by omega), if_neg (marked ▸ notEnd)]
    refine bind_eq_ok.2 ⟨_, parse_complete keyStands later.1, bind_eq_ok.2 ⟨_, skipped, ?_⟩⟩
    by_cases isInfo : key = infoKey
    · simp only [spanAfter, if_pos isInfo] at found
      split at found
      · cases found
      · rename_i first
        have isKey : key = "info".toList.map ord := isInfo
        simp only [if_pos isKey, if_neg first]
        exact ih tail stands found
    · simp only [spanAfter, if_neg isInfo] at found
      have notKey : ¬ key = "info".toList.map ord := isInfo
      simp only [if_neg notKey]
      exact ih tail stands found

/-- A value that begins as a dictionary is one. -/
theorem dictionary_of_head (value : Value depth text) (letter : text.head? = some (ord 'd')) :
    ∃ entries, text = dictionary entries := by
  cases value with
  | byteString key _ =>
    obtain ⟨-, first, rest, shape, digit⟩ := opens_byteString key
    rw [shape] at letter
    obtain rfl := Option.some.inj letter
    exact absurd digit (by decide)
  | integer number _ =>
    have other : ord 'i' ≠ ord 'd' := by decide
    cases number with
    | ofNat number => exact absurd (Option.some.inj letter) other
    | negSucc number => exact absurd (Option.some.inj letter) other
  | list items _ _ =>
    have other : ord 'l' ≠ ord 'd' := by decide
    exact absurd (Option.some.inj letter) other
  | dictionary entries _ _ => exact ⟨entries, rfl⟩

theorem stands_whole : Stands content 0 content content.length :=
  ⟨⟨[], by simp⟩, by simp⟩

/-- Where the value of `info` stands in a dictionary. -/
theorem stands_info (before after : List (List UInt8 × List UInt8)) (info : List UInt8) :
    Stands (dictionary (before ++ (infoKey, info) :: after))
      (1 + (pairs before ++ byteString infoKey).length) info
      (1 + (pairs before ++ byteString infoKey).length + info.length) := by
  have shape : dictionary (before ++ (infoKey, info) :: after) =
      ([ord 'd'] ++ (pairs before ++ byteString infoKey)) ++
        (info ++ (pairs after ++ [ord 'e'])) := by
    simp [dictionary, append_assoc]
  have position : 0 + ([ord 'd'] ++ (pairs before ++ byteString infoKey)).length =
      1 + (pairs before ++ byteString infoKey).length := by
    simp
    omega
  rw [shape, ← position]
  exact stands_whole.split.2.split.1

/-- What a dictionary has behind its letter. -/
theorem stands_pairs (entries : List (List UInt8 × List UInt8)) :
    Stands (dictionary entries) 1 (pairs entries ++ [ord 'e']) (dictionary entries).length := by
  have whole : Stands (dictionary entries) 0 ([ord 'd'] ++ (pairs entries ++ [ord 'e']))
      (dictionary entries).length := stands_whole
  exact whole.split.2

/-- `_top_level_info_span` accepts what is a descriptor, and gives the span of its `info`. -/
theorem topLevelInfoSpan_eq_ok {start : Nat} :
    topLevelInfoSpan content = .ok (start, stop) ↔ ∃ info, Descriptor content info start stop := by
  constructor
  · intro accepted
    unfold topLevelInfoSpan at accepted
    split at accepted
    · rename_i letter
      obtain ⟨⟨last, span⟩, scanned, accepted⟩ := bind_eq_ok.1 accepted
      obtain ⟨entries, values, stands, found⟩ := scan_sound _ (lt_succ_self _) scanned
      simp only at accepted
      split at accepted
      · cases accepted
      · rename_i ends
        simp only [not_or, not_not, ne_eq] at ends
        obtain ⟨inside, mark, final⟩ := ends
        split at accepted
        · cases accepted
        · rename_i known
          split at accepted
          · rename_i opening
            obtain rfl := Except.ok.inj accepted
            obtain ⟨before, info, after, rfl, others, rfl, rfl⟩ := (spanAfter_unknown 1).1 found
            have inContent : 0 < content.length := by
              cases content with
              | nil => cases letter
              | cons first rest => exact succ_pos _
            have first := stands_getD inContent
            have last := stands_getD (Nat.not_le.1 inside)
            rw [getD_eq_getElem?_getD, ← List.head?_eq_getElem?, letter, Option.getD_some] at first
            rw [mark, final] at last
            have shape := (first.append (stands.append last)).slice_eq
            have whole : content = dictionary (before ++ (infoKey, info) :: after) := by
              rw [stands_whole.slice_eq] at shape
              exact shape
            refine ⟨info, before, after, whole, values, others, ?_, rfl, rfl⟩
            have isValue : Value 1 info := values (infoKey, info) (by simp)
            obtain ⟨head, rest, opened, -⟩ := opens_value isValue
            apply dictionary_of_head isValue
            have stand := stands_info before after info
            rw [← whole] at stand
            rw [opened] at stand
            rw [stand.getD_eq] at opening
            simp only [opened, List.head?_cons, opening]
          · cases accepted
    · cases accepted
  · rintro ⟨info, before, after, rfl, values, others, ⟨entries, rfl⟩, rfl, rfl⟩
    have found := (spanAfter_unknown 1).2
      ⟨before, dictionary entries, after, rfl, others, rfl, rfl⟩
    have stands := stands_pairs (before ++ (infoKey, dictionary entries) :: after)
    have scanned := scan_complete values stands found
    have opening := (stands_info before after (dictionary entries)).getD_eq
    have letter : (dictionary (before ++ (infoKey, dictionary entries) :: after)).head? =
        some (ord 'd') := rfl
    have mark := stands.split.2.getD_eq
    have ends := stands.split.2.2
    rw [length_singleton] at ends
    have last : (dictionary (before ++ (infoKey, dictionary entries) :: after)).length - 1 =
        1 + (pairs (before ++ (infoKey, dictionary entries) :: after)).length := by omega
    rw [last] at scanned
    generalize dictionary (before ++ (infoKey, dictionary entries) :: after) = content at *
    unfold topLevelInfoSpan
    rw [if_pos letter]
    refine bind_eq_ok.2 ⟨_, scanned, ?_⟩
    simp only [mark, opening, ends, not_succ_le_self, ne_eq, not_true_eq_false, or_self,
      if_false, if_true]

theorem Descriptor.slice_eq {info : List UInt8} {start : Nat}
    (descriptor : Descriptor content info start stop) : slice content start stop = info := by
  obtain ⟨before, after, rfl, -, -, -, rfl, rfl⟩ := descriptor
  exact (stands_info before after info).slice_eq

/-- A descriptor is accepted exactly with the span of its `info`, and the hashes are those of the
bytes that encode it. -/
theorem infoSpan_exact (content : List UInt8) :
    (∀ start stop, topLevelInfoSpan content = .ok (start, stop) ↔
      ∃ info, Descriptor content info start stop ∧ slice content start stop = info) ∧
    ∀ {Digest : Type} (sha1 sha256 : List UInt8 → Digest) (hashes : List Digest),
      torrentInfoHashes sha1 sha256 content = .ok hashes ↔
        ∃ info start stop, Descriptor content info start stop ∧
          hashes = [sha1 info, sha256 info] := by
  constructor
  · intro start stop
    rw [topLevelInfoSpan_eq_ok]
    exact exists_congr fun info => (and_iff_left_of_imp Descriptor.slice_eq).symm
  · intro Digest sha1 sha256 hashes
    unfold torrentInfoHashes
    constructor
    · intro accepted
      obtain ⟨⟨start, stop⟩, found, rfl⟩ := Durable.of_map_ok accepted
      obtain ⟨info, descriptor⟩ := topLevelInfoSpan_eq_ok.1 found
      exact ⟨info, start, stop, descriptor, by rw [descriptor.slice_eq]⟩
    · rintro ⟨info, start, stop, descriptor, rfl⟩
      rw [topLevelInfoSpan_eq_ok.2 ⟨info, descriptor⟩, ← descriptor.slice_eq]
      rfl

end Pullbox.Torrent
