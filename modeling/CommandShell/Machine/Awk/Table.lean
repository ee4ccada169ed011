import Std.Data.HashMap
set_option autoImplicit false

/-!
# Tables

A table has a value for each of its keys, which are texts.  The order in which the keys are gone
through is that of buckets to which keys are assigned by a hash; in a bucket the key that was used
last comes first.  Keys that are whole numbers are kept in buckets of their own by their value,
until a key is used as a text; then they are given out to the buckets of the texts one after
another.
-/

namespace CommandShell.Machine.Awk

/-- The hash of a key. -/
def keyHash (key : ByteArray) : UInt32 :=
  key.foldl (fun (hash : UInt32) byte => (hash ^^^ byte.toUInt32) * 16777619) 2166136261

/-- The text of a whole number. -/
def numberKey (n : Int) : ByteArray := (toString n).toUTF8

/-- How a key is used. -/
inductive Key where
  | number (n : Int)
  | text (bytes : ByteArray)

/-- The text of a key. -/
def Key.bytes : Key → ByteArray
  | number n => numberKey n
  | text bytes => bytes

/-- Keys in buckets. -/
abbrev Buckets (α : Type) := Array (List α)

namespace Buckets

variable {α : Type}

/-- Puts a key at the front of a bucket. -/
def push (buckets : Buckets α) (index : Nat) (key : α) : Buckets α :=
  buckets.modify index (key :: ·)

/-- Takes a key out of a bucket. -/
def drop [BEq α] (buckets : Buckets α) (index : Nat) (key : α) : Buckets α :=
  buckets.modify index (·.erase key)

/-- Twice as many buckets, where each key stays or moves as `place` says. -/
def double (buckets : Buckets α) (place : α → Nat) : Buckets α :=
  let size := buckets.size
  let empty : Buckets α := Array.replicate (2 * size) []
  buckets.foldl (fun doubled bucket =>
    bucket.foldl (fun (doubled : Buckets α) key =>
      doubled.modify (place key % (2 * size)) (· ++ [key])) doubled) empty

end Buckets

/-- The order of the keys of a table. -/
inductive KeyOrder where
  | empty
  /-- The keys are the numbers from 1 on. -/
  | row (length : Nat)
  /-- The keys are in buckets: those used as numbers, and once a key has been used as a text all of
  them by their text. -/
  | hashed (numbers : Buckets Int) (texts : Option (Buckets ByteArray)) (size : Nat)

namespace KeyOrder

/-- How many buckets a table begins with. -/
def firstBuckets : Nat := 64

/-- How many keys there may be for each bucket. -/
def keysPerBucket : Nat := 12

/-- The bucket of a number. -/
def numberPlace (buckets : Nat) (n : Int) : Nat := (n % (buckets : Int)).toNat

/-- The bucket of a text. -/
def textPlace (buckets : Nat) (key : ByteArray) : Nat := (keyHash key).toNat % buckets

/-- As many buckets as so many keys need, doubling at most `fuel` times. -/
def bucketsFor (size : Nat) : (fuel buckets : Nat) → Nat
  | 0, buckets => buckets
  | fuel + 1, buckets =>
    if size > buckets * keysPerBucket then bucketsFor size fuel (2 * buckets) else buckets

/-- An empty bucket for each place. -/
def noBuckets (α : Type) (count : Nat) : Buckets α := Array.replicate count []

/-- The numbers from 1 on in buckets. -/
def ofRow (length : Nat) : KeyOrder :=
  let count := bucketsFor length 64 firstBuckets
  let numbers := (List.range' 1 length).foldl (fun (numbers : Buckets Int) (n : Nat) =>
    numbers.push (numberPlace count n) (n : Int)) (noBuckets Int count)
  .hashed numbers none length

/-- The numbers of a table as texts. -/
def textsOf (numbers : Buckets Int) : Buckets ByteArray :=
  numbers.foldl (fun texts bucket =>
    bucket.foldl (fun (texts : Buckets ByteArray) n =>
      let key := numberKey n
      texts.push (textPlace numbers.size key) key) texts) (noBuckets ByteArray numbers.size)

/-- Makes room for one more key. -/
def grow (numbers : Buckets Int) (texts : Option (Buckets ByteArray)) (size : Nat) : KeyOrder :=
  let count := numbers.size
  if size + 1 > count * keysPerBucket then
    .hashed (numbers.double (numberPlace (2 * count)))
      (texts.map fun texts => texts.double (textPlace (2 * count))) (size + 1)
  else .hashed numbers texts (size + 1)

/-- A text is used as a key; `isNew` if the table did not have it. -/
def useText (order : KeyOrder) (key : ByteArray) (isNew : Bool) : KeyOrder :=
  let order := match order with
    | .row length => ofRow length
    | order => order
  let (numbers, texts, size) := match order with
    | .hashed numbers texts size => (numbers, texts.getD (textsOf numbers), size)
    | _ => (noBuckets Int firstBuckets, noBuckets ByteArray firstBuckets, 0)
  if isNew then
    match grow numbers (some texts) size with
    | .hashed numbers texts size =>
      .hashed numbers (texts.map fun texts => texts.push (textPlace numbers.size key) key) size
    | other => other
  else
    let place := textPlace numbers.size key
    .hashed numbers (some ((texts.drop place key).push place key)) size

/-- A number is used as a key; `isNew` if the table did not have it. -/
def useNumber (order : KeyOrder) (n : Int) (isNew : Bool) : KeyOrder :=
  let inRow : Bool := match order with
    | .row length => 1 ≤ n && n ≤ (length : Int)
    | _ => false
  let extendsRow : Bool := match order with
    | .row length => n = (length : Int) + 1
    | _ => false
  if inRow then order
  else if extendsRow then .row (n.toNat)
  else
    let order := match order with
      | .row length => ofRow length
      | .empty => .hashed (noBuckets Int firstBuckets) none 0
      | order => order
    match order with
    | .hashed numbers texts size =>
      let place := numberPlace numbers.size n
      if numbers[place]?.any (·.contains n) then
        .hashed ((numbers.drop place n).push place n) texts size
      else
        let order := match texts with
          | some _ => order.useText (numberKey n) isNew
          | none => if isNew then grow numbers texts size else order
        match order with
        | .hashed numbers texts size =>
          .hashed (numbers.push (numberPlace numbers.size n) n) texts size
        | other => other
    | other => other

/-- A key is used. -/
def use (order : KeyOrder) (key : Key) (isNew : Bool) : KeyOrder :=
  match key with
  | .number n => order.useNumber n isNew
  | .text bytes => order.useText bytes isNew

/-- A key is taken out. -/
def remove (order : KeyOrder) (key : ByteArray) (number : Option Int) : KeyOrder :=
  let order := match order with
    | .row length => ofRow length
    | order => order
  match order with
  | .hashed numbers texts size =>
    if size ≤ 1 then .empty
    else
      let numbers := match number with
        | some n => numbers.drop (numberPlace numbers.size n) n
        | none => numbers
      .hashed numbers (texts.map fun texts => texts.drop (textPlace texts.size key) key) (size - 1)
  | other => other

/-- The order once all keys are wanted as texts. -/
def asTexts (order : KeyOrder) : KeyOrder :=
  let order := match order with
    | .row length => ofRow length
    | order => order
  match order with
  | .hashed numbers none size => .hashed numbers (some (textsOf numbers)) size
  | other => other

/-- All keys in order, if they are kept as texts. -/
def keys : KeyOrder → List ByteArray
  | .hashed _ (some texts) _ => texts.toList.flatten
  | _ => []

end KeyOrder

/-- A table. -/
structure Table (α : Type) where
  values : Std.HashMap ByteArray α := {}
  order : KeyOrder := .empty

namespace Table

variable {α : Type}

/-- How many keys a table has. -/
def size (table : Table α) : Nat := table.values.size

/-- The whole number that is written like a key. -/
def keyNumber? (key : ByteArray) : Option Int :=
  match (String.fromUTF8? key).bind String.toInt? with
  | some n => if (numberKey n).data = key.data then some n else none
  | none => none

/-- The value of a key, which is now used. -/
def find? (table : Table α) (key : Key) : Option α × Table α :=
  let bytes := key.bytes
  match table.values[bytes]? with
  | some value => (some value, { table with order := table.order.use key false })
  | none =>
    let isText : Bool := match key with
      | .text _ => table.size > 0
      | .number _ => false
    (none, if isText then { table with order := table.order.asTexts } else table)

/-- The table in which a key has a value. -/
def insert (table : Table α) (key : Key) (value : α) : Table α :=
  let bytes := key.bytes
  let isNew := !table.values.contains bytes
  ⟨table.values.insert bytes value, table.order.use key isNew⟩

/-- The table without a key. -/
def erase (table : Table α) (key : Key) : Table α :=
  let bytes := key.bytes
  if table.values.contains bytes then
    let order := table.order.use key false
    ⟨table.values.erase bytes, order.remove bytes (keyNumber? bytes)⟩
  else (table.find? key).2

/-- A table of values for the numbers from 1 on. -/
def ofList (values : List α) : Table α :=
  let entries := values.zipIdx.map fun (value, i) => (numberKey (i + 1), value)
  ⟨Std.HashMap.ofList entries, if values.isEmpty then .empty else .row values.length⟩

/-- All keys in order, and the table in which they are kept in that order. -/
def keys (table : Table α) : List ByteArray × Table α :=
  let order := table.order.asTexts
  (order.keys, { table with order })

end Table

end CommandShell.Machine.Awk
