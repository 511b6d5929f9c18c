import SyntaxCensus.Regex.Notation.Term
import SyntaxCensus.Text.Lines

/-!
# Reading terms

A text is read from left to right, and the first fault ends the reading.

Main definitions:

- `Term.read`: the term that a text spells.
-/

namespace SyntaxCensus
namespace Regex

/-- What is left of a text, and where it begins.  In a spaced text, blanks and
comments are skipped. -/
structure Cursor where
  rest : List Char
  place : Place
  spaced : Bool
  names : List (List Char × Span)

/-- A step of reading. -/
abbrev Reading (α : Type) := StateT Cursor (Except NotationFault) α

namespace Reading

/-- End with a problem of a part of the text. -/
def fail {α : Type} (problem : NotationProblem) (span : Span) (earlier : Option Span) :
    Reading α :=
  throw ⟨problem, span, earlier⟩

/-- The place that is reached. -/
def here : Reading Place := return (← get).place

/-- The next character. -/
def next? : Reading (Option Char) := return (← get).rest.head?

/-- Nothing is left. -/
def atEnd : Reading Bool := return (← get).rest.isEmpty

/-- The part of the text from a place up to here. -/
def spanFrom (first : Place) : Reading Span := return ⟨first, ← here⟩

/-- The empty part of the text here. -/
def spanHere : Reading Span := do spanFrom (← here)

/-- The part of the text that is the next character. -/
def spanNext : Reading Span := do
  let cursor ← get
  return ⟨cursor.place, cursor.rest.head?.elim cursor.place cursor.place.after⟩

/-- Take a character, and tell whether anything is left. -/
def advance : Reading Bool := do
  let cursor ← get
  match cursor.rest with
  | [] => return false
  | c :: rest => do
      set { cursor with rest, place := cursor.place.after c }
      return !rest.isEmpty

/-- The text after blanks and comments, and where it begins. -/
def afterSpace (inComment : Bool) (place : Place) : List Char → List Char × Place
  | [] => ([], place)
  | c :: rest =>
      if inComment then afterSpace (c ≠ '\n') (place.after c) rest
      else if isBlank c then afterSpace false (place.after c) rest
      else if c = '#' then afterSpace true (place.after c) rest
      else (c :: rest, place)

/-- Skip blanks and comments in a spaced text. -/
def skipSpace : Reading Unit :=
  modify fun cursor =>
    if cursor.spaced then
      let (rest, place) := afterSpace false cursor.place cursor.rest
      { cursor with rest, place }
    else cursor

/-- Take a character and what may be skipped after it, and tell whether
anything is left. -/
def advanceOver : Reading Bool := do
  if ← advance then
    skipSpace
    return !(← atEnd)
  else return false

/-- Take a text if it is next. -/
def take? (text : List Char) : Reading Bool := do
  let cursor ← get
  if text.isPrefixOf cursor.rest then
    set { cursor with
      rest := cursor.rest.drop text.length
      place := text.foldl .after cursor.place }
    return true
  else return false

/-- The character after the next one, behind what may be skipped. -/
def second? : Reading (Option Char) := do
  let cursor ← get
  match cursor.rest with
  | [] => return none
  | c :: rest =>
      if cursor.spaced then return (afterSpace false (cursor.place.after c) rest).1.head?
      else return rest.head?

/-- Take characters that satisfy a test, each with what may be skipped after
it; at most `limit`. -/
def takeWhileOver (test : Char → Bool) : Nat → Reading (List Char)
  | 0 => return []
  | limit + 1 => do
      match ← next? with
      | none => return []
      | some c =>
          if test c then do
            let _ ← advanceOver
            return c :: (← takeWhileOver test limit)
          else return []

/-- How many characters are left. -/
def size : Reading Nat := return (← get).rest.length

end Reading

open Reading

/-! ## Characters that are spelled by numbers -/

/-- The value of a hexadecimal digit. -/
def hexValue? (c : Char) : Option Nat :=
  if c.isDigit then some (c.toNat - 0x30)
  else if 'a' ≤ c ∧ c ≤ 'f' then some (c.toNat - 0x57)
  else if 'A' ≤ c ∧ c ≤ 'F' then some (c.toNat - 0x37)
  else none

/-- The character of a number, if there is one. -/
def scalar? (number : Nat) : Option Char :=
  if number.isValidChar then some (Char.ofNat number) else none

/-- The number that hexadecimal digits spell. -/
def hexNumber (digits : List Char) : Nat :=
  digits.foldl (fun value c => value * 16 + (hexValue? c).getD 0) 0

/-- The digits of a character that is spelled by a fixed number of them. -/
def readHexDigits (first : Bool) : Nat → Reading (List Char)
  | 0 => return []
  | count + 1 => do
      if !first then
        if !(← advanceOver) then fail .escapeUnfinished (← spanHere) none
      match ← next? with
      | some c =>
          if (hexValue? c).isNone then fail .hexDigit (← spanNext) none
          else return c :: (← readHexDigits false count)
      | none => fail .hexDigit (← spanNext) none

/-- A character that is spelled by hexadecimal digits in braces. -/
def readHexInBraces : Reading Char := do
  let open_ ← here
  let first := (← spanNext).last
  let _ ← advanceOver
  let digits ← takeWhileOver (fun c => (hexValue? c).isSome) (← size)
  match ← next? with
  | none => fail .escapeUnfinished (← spanFrom open_) none
  | some c => do
      if c ≠ '\x7d' then fail .hexDigit (← spanNext) none
      let last ← here
      let _ ← advanceOver
      if digits.isEmpty then fail .hexEmpty (← spanFrom open_) none
      match scalar? (hexNumber digits) with
      | some c => return c
      | none => fail .hexInvalid ⟨first, last⟩ none

/-- A character that is spelled by hexadecimal digits after a letter. -/
def readHex (digits : Nat) : Reading Char := do
  if !(← advanceOver) then fail .escapeUnfinished (← spanHere) none
  if (← next?) = some '\x7b' then readHexInBraces
  else do
    let first ← here
    let digits ← readHexDigits true digits
    let _ ← advanceOver
    match scalar? (hexNumber digits) with
    | some c => return c
    | none => fail .hexInvalid (← spanFrom first) none

/-! ## Escapes -/

/-- What a backslash begins. -/
inductive Escape where
  | literal (span : Span) (c : Char) (byte : Bool)
  | letter (span : Span) (negated : Bool) (kind : LetterClass)
  | property (span : Span) (isCategory : Bool)
  | edge (span : Span) (edge : EdgeTerm)

/-- A character that has a meaning of its own. -/
def hasMeaning (c : Char) : Bool :=
  "\\.+*?()|[]\x7b\x7d^$#&-~".toList.contains c

/-- A character that stands for itself after a backslash. -/
def isEscapable (c : Char) : Bool :=
  hasMeaning c || (decide (c.toNat < 0x80) && !c.isAlphanum && c ≠ '<' && c ≠ '>')

/-- The controls that are spelled by a letter. -/
def control? : Char → Option Char
  | 'a' => some '\x07'
  | 'f' => some '\x0c'
  | 't' => some '\t'
  | 'n' => some '\n'
  | 'r' => some '\r'
  | 'v' => some '\x0b'
  | _ => none

/-- The edges that are spelled by a letter. -/
def edge? : Char → Option EdgeTerm
  | 'A' => some .textStart
  | 'z' => some .textEnd
  | 'b' => some .wordEdge
  | 'B' => some .noWordEdge
  | '<' => some .wordStart
  | '>' => some .wordEnd
  | _ => none

/-- The edges that are named in braces. -/
def namedEdge? (name : List Char) : Option EdgeTerm :=
  match String.ofList name with
  | "start" => some .wordStart
  | "end" => some .wordEnd
  | "start-half" => some .beforeWord
  | "end-half" => some .afterWord
  | _ => none

/-- A letter of the name of an edge. -/
def isEdgeLetter (c : Char) : Bool :=
  c.isAlpha || c = '-'

/-- The edge that is named in braces, if they do not hold a count. -/
def readNamedEdge (start : Place) : Reading (Option EdgeTerm) := do
  let before ← get
  if !(← advanceOver) then fail .edgeUnfinished (← spanFrom start) none
  let first ← here
  if !(← next?).any isEdgeLetter then
    set before
    return none
  let name ← takeWhileOver isEdgeLetter (← size)
  if (← next?) ≠ some '\x7d' then fail .edgeUnclosed (← spanFrom before.place) none
  let last ← here
  let _ ← advance
  match namedEdge? name with
  | some edge => return some edge
  | none => fail .edgeUnknown ⟨first, last⟩ none

/-- A name of a property without the blanks, bars and case that do not
matter. -/
def plainName (name : List Char) : List Char :=
  (name.filter fun c => c ≠ ' ' && c ≠ '_' && c ≠ '-').map Char.toLower

/-- A property that is spelled after a letter; only those that name a category
in short are told apart. -/
def readProperty (start : Place) : Reading Escape := do
  if !(← advanceOver) then fail .escapeUnfinished (← spanHere) none
  if (← next?) = some '\x7b' then do
    let _ ← advanceOver
    let name ← takeWhileOver (· ≠ '\x7d') (← size)
    if ← atEnd then fail .escapeUnfinished (← spanHere) none
    let _ ← advance
    let isCategory := ["cf", "sc", "lc"].contains (String.ofList (plainName name))
    return .property (← spanFrom start) isCategory
  else do
    if (← next?) = some '\\' then fail .classNameInvalid (← spanNext) none
    let _ ← advanceOver
    return .property (← spanFrom start) false

/-- What a backslash begins. -/
def readEscape : Reading Escape := do
  let start ← here
  if !(← advance) then fail .escapeUnfinished (← spanFrom start) none
  match ← next? with
  | none => fail .escapeUnfinished (← spanFrom start) none
  | some c =>
      let digits := if c = 'x' then 2 else if c = 'u' then 4 else 8
      if c.isDigit then fail .backreference ⟨start, (← spanNext).last⟩ none
      else if c = 'x' ∨ c = 'u' ∨ c = 'U' then do
        let braces := (← second?) = some '\x7b'
        let found ← readHex digits
        return .literal (← spanFrom start) found (c = 'x' && !braces)
      else if c = 'p' ∨ c = 'P' then readProperty start
      else do
        let _ ← advance
        let span ← spanFrom start
        match c with
        | 'd' => return .letter span false .digit
        | 'D' => return .letter span true .digit
        | 's' => return .letter span false .space
        | 'S' => return .letter span true .space
        | 'w' => return .letter span false .word
        | 'W' => return .letter span true .word
        | _ =>
            if isEscapable c then return .literal span c false
            else
              match control? c, edge? c with
              | some found, _ => return .literal span found false
              | none, some edge =>
                  if c = 'b' && (← next?) = some '\x7b' then
                    match ← readNamedEdge start with
                    | some named => return .edge (← spanFrom start) named
                    | none => return .edge span edge
                  else return .edge span edge
              | none, none => fail .escapeUnknown span none

/-! ## Classes -/

/-- A character or an escape in a class. -/
def readClassItem : Reading Escape := do
  match ← next? with
  | some '\\' => readEscape
  | some c => do
      let span ← spanNext
      let _ ← advance
      return .literal span c false
  | none => fail .classUnclosed (← spanHere) none

/-- The part of a text that an escape is. -/
def Escape.span : Escape → Span
  | .literal span _ _ | .letter span _ _ | .property span _ | .edge span _ => span

/-- An escape as a member of a class. -/
def Escape.toClass : Escape → Reading ClassTerm
  | .literal span c byte => return .literal span c byte
  | .letter span negated kind => return .letter span negated kind
  | .property span isCategory => return .property span isCategory
  | .edge span _ => fail .classEscape span none

/-- An escape as an end of a range. -/
def Escape.toCharacter : Escape → Reading Char
  | .literal _ c _ => return c
  | other => fail .classRangeEnds other.span none

/-- A member of a class: a character, an escape or a range; `unclosed` is the
part of the text to blame if the class is not closed. -/
def readClassMember (unclosed : Span) : Reading ClassTerm := do
  let first ← readClassItem
  skipSpace
  if ← atEnd then fail .classUnclosed unclosed none
  let after ← second?
  if (← next?) ≠ some '-' ∨ after = some ']' ∨ after = some '-' then first.toClass
  else do
    if !(← advanceOver) then fail .classUnclosed unclosed none
    let last ← readClassItem
    let span : Span := ⟨first.span.first, last.span.last⟩
    let low ← first.toCharacter
    let high ← last.toCharacter
    if high < low then fail .classRange span none
    return .range span low high

/-- A class with a name between colons, if one is next. -/
def readNamedClass? : Reading (Option ClassTerm) := do
  let before ← get
  match before.rest with
  | '[' :: ':' :: inner =>
      let (negated, inner) :=
        match inner with
        | '^' :: rest => (true, rest)
        | rest => (false, rest)
      let name := inner.takeWhile (· ≠ ':')
      match inner.dropWhile (· ≠ ':'), CharacterSet.named? (String.ofList name) with
      | ':' :: ']' :: _, some set => do
          let length := name.length + (if negated then 5 else 4)
          let _ ← take? (before.rest.take length)
          return some (.named (← spanFrom before.place) negated set)
      | _, _ => return none
  | _ => return none

/-- The dashes at the beginning of a class, at most `limit`. -/
def readDashes (start : Place) : Nat → Reading (Option ClassTerm)
  | 0 => return none
  | limit + 1 => do
      if (← next?) = some '-' then do
        let span ← spanNext
        if !(← advanceOver) then fail .classUnclosed ⟨start, start⟩ none
        let rest ← readDashes start limit
        return some (.union (.literal span '-' false) (rest.getD .empty))
      else return none

/-- The operation between classes that is next, if there is one. -/
def readClassOperation? : Reading (Option ClassOperation) := do
  if ← take? ['&', '&'] then return some .intersection
  else if ← take? ['-', '-'] then return some .difference
  else if ← take? ['~', '~'] then return some .symmetricDifference
  else return none

mutual

/-- A class in brackets. -/
def readClass : Nat → Reading ClassTerm
  | 0 => do fail .classUnclosed (← spanHere) none
  | limit + 1 => do
      let start ← here
      if !(← advanceOver) then fail .classUnclosed (← spanFrom start) none
      let negated := (← next?) = some '^'
      if negated then
        if !(← advanceOver) then fail .classUnclosed (← spanFrom start) none
      let dashes ← readDashes start (← size)
      let begun ←
        if dashes.isNone && (← next?) = some ']' then do
          let span ← spanNext
          if !(← advanceOver) then fail .classUnclosed (← spanFrom start) none
          pure (ClassTerm.literal span ']' false)
        else pure (dashes.getD .empty)
      let inner ← readMembers (← spanFrom start) none begun limit
      let _ ← advance
      return .bracketed (← spanFrom start) negated inner

/-- The members of a class up to the bracket that closes it.  What stands
before an operation is kept apart. -/
def readMembers (unclosed : Span) (before : Option (ClassOperation × ClassTerm))
    (members : ClassTerm) : Nat → Reading ClassTerm
  | 0 => fail .classUnclosed unclosed none
  | limit + 1 => do
      let closed : ClassTerm :=
        match before with
        | some (operation, first) => .operation operation first members
        | none => members
      skipSpace
      match ← next? with
      | none => fail .classUnclosed unclosed none
      | some ']' => return closed
      | some '[' => do
          match ← readNamedClass? with
          | some named => readMembers unclosed before (.union members named) limit
          | none => do
              let inner ← readClass limit
              readMembers unclosed before (.union members inner) limit
      | some _ => do
          match ← readClassOperation? with
          | some operation => readMembers unclosed (some (operation, closed)) .empty limit
          | none => do
              let member ← readClassMember unclosed
              readMembers unclosed before (.union members member) limit

end

/-! ## Groups -/

/-- A character of the name of a group. -/
def isGroupNameCharacter (first : Bool) (c : Char) : Bool :=
  let letter := c.isAlpha || decide (0x80 ≤ c.toNat)
  if first then letter || c = '_'
  else letter || c.isDigit || "_.[]".toList.contains c

/-- The characters of the name of a group, at most `limit`. -/
def readGroupNameCharacters (first : Bool) : Nat → Reading (List Char)
  | 0 => return []
  | limit + 1 => do
      match ← next? with
      | none | some '>' => return []
      | some c => do
          if !isGroupNameCharacter first c then fail .nameInvalid (← spanNext) none
          let _ ← advance
          return c :: (← readGroupNameCharacters false limit)

/-- The name of a group. -/
def readGroupName : Reading Unit := do
  if ← atEnd then fail .nameUnfinished (← spanHere) none
  let first ← here
  let name ← readGroupNameCharacters true (← size)
  let span ← spanFrom first
  if ← atEnd then fail .nameUnfinished (← spanHere) none
  let _ ← advance
  if name.isEmpty then fail .nameEmpty ⟨first, first⟩ none
  match (← get).names.find? fun known => known.1 = name with
  | some known => fail .nameRepeated span (some known.2)
  | none => modify fun cursor => { cursor with names := (name, span) :: cursor.names }

/-- The setting that a letter names. -/
def flag? : Char → Option Flag
  | 'i' => some .anyCase
  | 'm' => some .lineEdges
  | 's' => some .dotMatchesLineFeed
  | 'U' => some .lazy
  | 'u' => some .unicode
  | 'R' => some .carriageReturns
  | 'x' => some .spaced
  | _ => none

/-- A setting or the mark of negation, with its part of the text. -/
abbrev FlagItem := Option Flag × Span

/-- Settings up to the mark after them, given those before in reverse. -/
def readFlags (items : List FlagItem) : Nat → Reading (List FlagItem)
  | 0 => return items
  | limit + 1 => do
      match ← next? with
      | none => fail .flagUnfinished (← spanHere) none
      | some c =>
          if c = ':' ∨ c = ')' then
            match items with
            | (none, span) :: _ => fail .flagNegationAtEnd span none
            | _ => return items
          else do
            let span ← spanNext
            let flag ←
              if c = '-' then pure none
              else
                match flag? c with
                | some flag => pure (some flag)
                | none => fail .flagUnknown span none
            match items.reverse.find? fun item => item.1 = flag with
            | some earlier =>
                fail (if flag.isNone then .flagNegationRepeated else .flagRepeated) span
                  (some earlier.2)
            | none => do
                if !(← advance) then fail .flagUnfinished (← spanHere) none
                readFlags ((flag, span) :: items) limit

/-- The changes that settings make; those after the mark of negation are
turned off. -/
def flagChanges (on : Bool) : List FlagItem → List FlagChange
  | [] => []
  | (none, _) :: rest => flagChanges false rest
  | (some flag, _) :: rest => ⟨flag, on⟩ :: flagChanges on rest

/-- What the beginning of a group says: only settings, or a group with
settings of its own. -/
inductive GroupHead where
  | settings (changes : List FlagChange)
  | group (changes : List FlagChange)

/-- The beginning of a group. -/
def readGroupHead : Reading GroupHead := do
  let open_ ← spanNext
  let _ ← advance
  skipSpace
  let inner ← here
  let isLook := (← take? ['?', '=']) || (← take? ['?', '!']) || (← take? ['?', '<', '=']) ||
    (← take? ['?', '<', '!'])
  if isLook then fail .lookAround (← spanFrom open_.first) none
  if (← take? ['?', 'P', '<']) || (← take? ['?', '<']) then do
    readGroupName
    return .group []
  else if ← take? ['?'] then do
    if ← atEnd then fail .groupUnclosed open_ none
    let items ← readFlags [] (← size)
    let changes := flagChanges true items.reverse
    let closes := (← next?) = some ')'
    let _ ← advance
    if closes then
      if items.isEmpty then fail .repetitionOfNothing ⟨inner, inner⟩ none
      else return .settings changes
    else return .group changes
  else return .group []

/-! ## Repetitions -/

/-- The greatest number of repetitions that can be written. -/
def maxCount : Nat := 4294967295

/-- A number of repetitions, if digits spell one. -/
def readCount : Reading (Except NotationFault Nat) := do
  let rec blanks : Nat → Reading Unit
    | 0 => return
    | limit + 1 => do
        if (← next?).any isBlank then
          let _ ← advance
          blanks limit
        else return
  blanks (← size)
  let first ← here
  let digits ← takeWhileOver Char.isDigit (← size)
  let span ← spanFrom first
  blanks (← size)
  if digits.isEmpty then return .error ⟨.countEmpty, span, none⟩
  let number := digits.foldl (fun value c => value * 10 + (c.toNat - 0x30)) 0
  if maxCount < number then return .error ⟨.decimalInvalid, span, none⟩
  return .ok number

/-- The bounds of a repetition in braces. -/
def readBounds : Reading (Nat × Option Nat) := do
  let start ← here
  let unclosed {α : Type} : Reading α := do fail .countUnclosed (← spanFrom start) none
  if !(← advanceOver) then unclosed
  let least ← readCount
  if ← atEnd then unclosed
  let bounds ←
    if (← next?) = some ',' then do
      if !(← advanceOver) then unclosed
      if (← next?) = some '\x7d' then pure (← ofExcept least, none)
      else do
        let least ← ofExcept least
        let most ← ofExcept (← readCount)
        pure (least, some most)
    else do
      let count ← ofExcept least
      pure (count, some count)
  if (← next?) ≠ some '\x7d' then unclosed
  if (← advanceOver) && (← next?) = some '?' then
    let _ ← advance
  if bounds.2.any fun most => decide (most < bounds.1) then
    fail .countRange (← spanFrom start) none
  return bounds
  where
    ofExcept {α : Type} : Except NotationFault α → Reading α
      | .ok found => return found
      | .error fault => throw fault

/-- The bounds that a mark of repetition gives. -/
def readRepetition (c : Char) : Reading (Nat × Option Nat) := do
  if c = '\x7b' then readBounds
  else do
    if (← advance) && (← next?) = some '?' then
      let _ ← advance
    return (if c = '+' then 1 else 0, if c = '?' then some 1 else none)

/-! ## Terms -/

/-- A character, an escape, a dot or an edge. -/
def readPrimitive : Reading Term := do
  let span ← spanNext
  match ← next? with
  | none => return .empty
  | some '\\' => do
      match ← readEscape with
      | .literal span c byte => return .literal span c byte
      | .letter span negated kind => return .characters (.letter span negated kind)
      | .property span isCategory => return .characters (.property span isCategory)
      | .edge _ edge => return .edge edge
  | some c => do
      let _ ← advance
      if c = '.' then return .dot span
      else if c = '^' then return .edge .lineStart
      else if c = '$' then return .edge .lineEnd
      else return .literal span c false

/-- A term can be repeated. -/
def Term.isRepeatable : Term → Bool
  | .empty | .flags _ => false
  | _ => true

/-- Terms up to the end of a group, given those before in reverse. -/
def readTerms (terms : List Term) : Nat → Reading Term
  | 0 => return Term.ofReversed terms
  | limit + 1 => do
      skipSpace
      match ← next? with
      | none | some ')' => return Term.ofReversed terms
      | some '|' => do
          let _ ← advance
          return .choice (Term.ofReversed terms) (← readTerms [] limit)
      | some '(' => do
          let open_ ← spanNext
          let spaced := (← get).spaced
          match ← readGroupHead with
          | .settings changes => do
              let setTo := (changes.find? fun change => change.flag = .spaced).map FlagChange.on
              modify fun cursor => { cursor with spaced := setTo.getD cursor.spaced }
              readTerms (.flags changes :: terms) limit
          | .group changes => do
              let setTo := (changes.find? fun change => change.flag = .spaced).map FlagChange.on
              modify fun cursor => { cursor with spaced := setTo.getD cursor.spaced }
              let inner ← readTerms [] limit
              if ← atEnd then fail .groupUnclosed open_ none
              modify fun cursor => { cursor with spaced }
              let _ ← advance
              readTerms (.group changes inner :: terms) limit
      | some '[' => do
          let found ← readClass (2 * (← size) + 2)
          readTerms (.characters found :: terms) limit
      | some c =>
          if c = '?' ∨ c = '*' ∨ c = '+' ∨ c = '\x7b' then
            match terms with
            | [] => fail .repetitionOfNothing (← spanHere) none
            | last :: others => do
                if !last.isRepeatable then fail .repetitionOfNothing (← spanHere) none
                let (least, most) ← readRepetition c
                readTerms (.repetition last least most :: others) limit
          else do
            let term ← readPrimitive
            readTerms (term :: terms) limit

/-- The term that a text spells.  Every step of reading takes a character. -/
def Term.read (text : List Char) : Except NotationFault Term :=
  let reading : Reading Term := do
    let term ← readTerms [] (text.length + 1)
    if !(← atEnd) then fail .groupUnopened (← spanNext) none
    return term
  (reading.run ⟨text, ⟨1, 1⟩, false, []⟩).map Prod.fst

end Regex
end SyntaxCensus
