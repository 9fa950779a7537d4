import Pullbox.Text.Decimal

/-!
# Bencoded values

The grammar of bencoding over bytes: byte strings with their length in front, integers, lists and
dictionaries, each written in one way. A value knows how deep it stands in others.
-/

namespace Text.Bencode

open Bytes (ord decimal)

/-- A byte string: its length, a colon and the bytes. -/
def byteString (content : List UInt8) : List UInt8 :=
  decimal content.length ++ ord ':' :: content

/-- An integer; zero has no sign. -/
def integer : Int → List UInt8
  | .ofNat number => ord 'i' :: decimal number ++ [ord 'e']
  | .negSucc number => ord 'i' :: ord '-' :: decimal (number + 1) ++ [ord 'e']

/-- The keys and values of a dictionary, one after the other. -/
def pairs (entries : List (List UInt8 × List UInt8)) : List UInt8 :=
  entries.flatMap fun entry => byteString entry.1 ++ entry.2

def dictionary (entries : List (List UInt8 × List UInt8)) : List UInt8 :=
  ord 'd' :: pairs entries ++ [ord 'e']

/-- How deep values may stand in one another. -/
def maxDepth : Nat :=
  100

/-- The bytes are one value that stands this deep. -/
inductive Value : Nat → List UInt8 → Prop
  | byteString {depth : Nat} (content : List UInt8) (shallow : depth ≤ maxDepth) :
      Value depth (byteString content)
  | integer {depth : Nat} (number : Int) (shallow : depth ≤ maxDepth) :
      Value depth (integer number)
  | list {depth : Nat} (items : List (List UInt8)) (shallow : depth ≤ maxDepth)
      (values : ∀ item ∈ items, Value (depth + 1) item) :
      Value depth (ord 'l' :: items.flatten ++ [ord 'e'])
  | dictionary {depth : Nat} (entries : List (List UInt8 × List UInt8))
      (shallow : depth ≤ maxDepth) (values : ∀ entry ∈ entries, Value (depth + 1) entry.2) :
      Value depth (dictionary entries)

@[simp]
theorem pairs_nil : pairs [] = [] :=
  rfl

@[simp]
theorem pairs_cons (entry : List UInt8 × List UInt8) (entries : List (List UInt8 × List UInt8)) :
    pairs (entry :: entries) = byteString entry.1 ++ entry.2 ++ pairs entries :=
  rfl

@[simp]
theorem pairs_append (first second : List (List UInt8 × List UInt8)) :
    pairs (first ++ second) = pairs first ++ pairs second := by
  simp [pairs]

end Text.Bencode
