import SyntaxCensus.Host.Tools.Records.Cell

/-!
# Tables of programs on records

The keys of a table are texts, but a key can also be asked for by a number.
Entries are kept in rows, in which the one that was used last stands first; a
program that goes through all keys meets them row after row.  An entry stands
in the row of its number as soon as it was asked for by it, and in the row of
its text as soon as the keys are needed as texts.

Main definitions:

- `Records.Table`: entries with their rows.
- `Table.locate`: the entry of a key, which may be made.
- `Table.keys`: all keys in order.
-/

namespace SyntaxCensus
namespace Records

/-- A key: a whole number, or a text. -/
inductive Key where
  | number (value : Int)
  | text (written : NarrowText)
  deriving DecidableEq, Repr

/-- An entry is known by a number, by a text, or by both. -/
structure TableEntry where
  number : Option Int
  written : Option NarrowText
  value : Cell
  deriving Inhabited

/-- The entry known by a number too. -/
def TableEntry.withNumber (number : Int) (entry : TableEntry) : TableEntry :=
  { entry with number := some number }

/-- The entry with another value. -/
def TableEntry.withValue (value : Cell) (entry : TableEntry) : TableEntry :=
  { entry with value }

/-- The number by which a text is put into a row. -/
def hashOf (text : NarrowText) : Nat :=
  text.foldl (fun hash c => (hash ^^^ c.toNat) * 16777619 % 4294967296) 2166136261

/-- Entries with their rows.  Rows hold the places of entries; `hasTexts` says
that every entry is known by its text. -/
structure Table where
  entries : Array (Option TableEntry) := #[]
  size : Nat := 0
  mask : Nat := 63
  hasTexts : Bool := false
  numberRows : Array (List Nat) := Array.replicate 64 []
  textRows : Array (List Nat) := Array.replicate 64 []
  deriving Inhabited

namespace Table

/-- The entries that one row may hold on average. -/
def rowLimit : Nat := 12

/-- The entry at a place. -/
def lookup? (t : Table) (place : Nat) : Option TableEntry :=
  (t.entries[place]?).join

/-- The row of a number. -/
def numberRow (t : Table) (number : Int) : Nat :=
  (number % (t.mask + 1)).toNat

/-- The row of a text. -/
def textRow (t : Table) (written : NarrowText) : Nat :=
  hashOf written % (t.mask + 1)

/-- Put a place in front of a row of numbers. -/
def pushNumber (t : Table) (row place : Nat) : Table :=
  { t with numberRows := t.numberRows.modify row fun others => place :: others.erase place }

/-- Put a place in front of a row of texts. -/
def pushText (t : Table) (row place : Nat) : Table :=
  { t with textRows := t.textRows.modify row fun others => place :: others.erase place }

/-- Make every entry known by its text. -/
def addTexts (t : Table) : Table :=
  if t.hasTexts then t
  else
    let places := t.numberRows.toList.flatten
    let filled := places.foldl
      (fun t place =>
        match t.lookup? place with
        | some { number := some number, written := none, value } =>
            let written := Numeral.ofInt number
            let t :=
              { t with
                entries := t.entries.setIfInBounds place
                  (some ⟨some number, some written, value⟩) }
            t.pushText (t.textRow written) place
        | _ => t)
      t
    { filled with hasTexts := true }

/-- The places of a row that belong to the same row of a table of twice the
size, and those that belong to a new one. -/
def splitRow (belongs : Nat → Bool) (row : List Nat) : List Nat × List Nat :=
  row.partition belongs

/-- The table with twice as many rows. -/
def double (t : Table) : Table :=
  let mask := 2 * t.mask + 1
  let rowOf (number : Bool) (place : Nat) : Nat :=
    match t.lookup? place with
    | some entry =>
        if number then ((entry.number.getD 0) % (mask + 1)).toNat
        else hashOf (entry.written.getD []) % (mask + 1)
    | none => 0
  let split (number : Bool) (rows : Array (List Nat)) : Array (List Nat) :=
    let halves := rows.toList.zipIdx.map fun (row, index) =>
      splitRow (fun place => rowOf number place = index) row
    ((halves.map Prod.fst) ++ (halves.map Prod.snd)).toArray
  { t with
    mask
    numberRows := split true t.numberRows
    textRows := split false t.textRows }

/-- The table with a further entry, which is in no row yet. -/
def add (t : Table) (entry : TableEntry) : Nat × Table :=
  let place := t.entries.size
  let t := { t with entries := t.entries.push (some entry), size := t.size + 1 }
  (place, if rowLimit * (t.mask + 1) < t.size then t.double else t)

/-- The place of the entry of a text, which is put in front of its row. -/
def locateText (t : Table) (creates : Bool) (written : NarrowText) : Option Nat × Table :=
  let t := t.addTexts
  let row := (t.textRows[t.textRow written]?).getD []
  match row.find? fun place => (t.lookup? place).any fun entry => entry.written = some written with
  | some place => (some place, t.pushText (t.textRow written) place)
  | none =>
      if creates then
        let (place, t) := t.add ⟨none, some written, .missing⟩
        (some place, t.pushText (t.textRow written) place)
      else (none, t)

/-- The place of the entry of a number, which is put in front of its row. -/
def locateNumber (t : Table) (creates : Bool) (number : Int) : Option Nat × Table :=
  let row := (t.numberRows[t.numberRow number]?).getD []
  match row.find? fun place => (t.lookup? place).any fun entry => entry.number = some number with
  | some place => (some place, t.pushNumber (t.numberRow number) place)
  | none =>
      if t.hasTexts then
        match t.locateText creates (Numeral.ofInt number) with
        | (none, t) => (none, t)
        | (some place, t) =>
            let t :=
              { t with
                entries := t.entries.modify place (Option.map (TableEntry.withNumber number)) }
            (some place, t.pushNumber (t.numberRow number) place)
      else if creates then
        let (place, t) := t.add ⟨some number, none, .missing⟩
        (some place, t.pushNumber (t.numberRow number) place)
      else (none, t)

/-- The place of the entry of a key; it is made if that is asked for. -/
def locate (t : Table) (creates : Bool) : Key → Option Nat × Table
  | .number value => t.locateNumber creates value
  | .text written => t.locateText creates written

/-- There is an entry of a key. -/
def contains (t : Table) (key : Key) : Bool × Table :=
  let (found, t) := t.locate false key
  (found.isSome, t)

/-- The value at a place. -/
def valueAt (t : Table) (place : Nat) : Cell :=
  ((t.lookup? place).map TableEntry.value).getD .missing

/-- Put a value at a place. -/
def setAt (t : Table) (place : Nat) (value : Cell) : Table :=
  { t with entries := t.entries.modify place (Option.map (TableEntry.withValue value)) }

/-- Put a value under a key. -/
def put (t : Table) (key : Key) (value : Cell) : Table :=
  match t.locate true key with
  | (some place, t) => t.setAt place value
  | (none, t) => t

/-- The table without the entry of a key. -/
def erase (t : Table) (key : Key) : Table :=
  if t.size = 0 then t
  else
    match t.locate false key with
    | (none, t) => t
    | (some place, t) =>
        if t.size ≤ 1 then {}
        else
          let without (rows : Array (List Nat)) (row : Nat) : Array (List Nat) :=
            rows.modify row fun others => others.erase place
          let t :=
            match t.lookup? place with
            | some entry =>
                let numberRows :=
                  match entry.number with
                  | some number => without t.numberRows (t.numberRow number)
                  | none => t.numberRows
                let textRows :=
                  match entry.written with
                  | some written => without t.textRows (t.textRow written)
                  | none => t.textRows
                { t with numberRows, textRows }
            | none => t
          { t with entries := t.entries.setIfInBounds place none, size := t.size - 1 }

/-- All keys in order, row after row. -/
def keys (t : Table) : List NarrowText × Table :=
  let t := t.addTexts
  (t.textRows.toList.flatten.filterMap fun place => (t.lookup? place).bind TableEntry.written, t)

/-- The table of the parts of a text, whose keys are the numbers from one
on. -/
def ofParts (parts : List NarrowText) : Table :=
  let count := parts.length
  let mask := growMask count count 63
  let empty : Table :=
    { mask
      numberRows := Array.replicate (mask + 1) []
      textRows := Array.replicate (mask + 1) [] }
  let filled := parts.zipIdx.foldl
    (fun t (part, index) =>
      let (place, t) := t.add ⟨some (index + 1), none, .input part⟩
      t.pushNumber ((index + 1) % (mask + 1)) place)
    empty
  if count = 0 then {} else filled
where
  /-- The mask of a table that holds a number of entries; it grows in at most
  `limit` steps. -/
  growMask (count : Nat) : Nat → Nat → Nat
    | 0, mask => mask
    | limit + 1, mask =>
        if rowLimit * (mask + 1) < count then growMask count limit (2 * mask + 1) else mask

end Table
end Records
end SyntaxCensus
