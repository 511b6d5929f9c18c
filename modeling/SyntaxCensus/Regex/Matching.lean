import SyntaxCensus.Regex.Expression

/-!
# Matching

An expression that begins at a place of a text can end at several places.
They are found all at once, each with what the groups have matched on the way
there; of two ways to the same end the first is kept, and earlier parts of an
expression take as much as they can.

Main definitions:

- `Expression.ends`: where an expression that begins at a place can end.
- `Expression.find?`: the leftmost match, and the longest one there.
- `Expression.occursIn`: an expression matches somewhere in a text.
-/

namespace SyntaxCensus

/-- What a group has matched: the place of its first character, and the place
behind its last one. -/
structure Extent where
  first : Nat
  last : Nat
  deriving DecidableEq, Repr

/-- A place that is reached, and what the groups have matched before it. -/
structure Reached where
  place : Nat
  groups : List (Nat × Extent)
  deriving DecidableEq, Repr

/-- What a group has matched. -/
def Reached.group? (reached : Reached) (number : Nat) : Option Extent :=
  (reached.groups.find? fun entry => entry.1 = number).map Prod.snd

namespace Expression

/-- The first way to each place, where the places that are reached already are
marked. -/
def firstWays (reached : Array Bool) (kept : List Reached) : List Reached → List Reached
  | [] => kept.reverse
  | way :: rest =>
      if reached.getD way.place false then firstWays reached kept rest
      else firstWays (reached.setIfInBounds way.place true) (way :: kept) rest

/-- The place behind all that are reached. -/
def placesOf (ways : List Reached) : Nat :=
  ways.foldl (fun size way => max size (way.place + 1)) 0

/-- The first way to each place, where few places are reached. -/
def fewWays (kept : List Reached) : List Reached → List Reached
  | [] => kept.reverse
  | way :: rest =>
      if kept.any fun other => other.place = way.place then fewWays kept rest
      else fewWays (way :: kept) rest

/-- The first way to each place. -/
def distinct (ways : List Reached) : List Reached :=
  if (ways.drop 16).isEmpty then fewWays [] ways
  else firstWays (Array.replicate (placesOf ways) false) [] ways

/-- Two lists of ways as one in which ends further right come first. -/
def farthestFirst (first second : List Reached) : List Reached :=
  distinct (first.merge second fun a b => decide (b.place ≤ a.place))

/-- How many characters in a row from a place on are in a set, at most
`limit`. -/
def runLength (text : Array Char) (set : CharacterSet) (place : Nat) : Nat → Nat
  | 0 => 0
  | limit + 1 =>
      match text[place]? with
      | some c => if set.contains c then runLength text set (place + 1) limit + 1 else 0
      | none => 0

/-- A step taken a number of times. -/
def times (step : Reached → List Reached) : Nat → List Reached → List Reached
  | 0, ways => ways
  | count + 1, ways =>
      if ways.isEmpty then []
      else times step count (distinct (ways.flatMap step))

/-- Ways to go on with a step as often as is possible, at most `limit` times.
Steps that do not get on are left out, and from no place are the ways sought
twice. -/
def closure (step : Reached → List Reached) (limit : Nat) (seen : List Nat) (way : Reached) :
    List Reached × List Nat :=
  match limit with
  | 0 => ([way], seen)
  | limit + 1 =>
      if seen.contains way.place then ([], seen)
      else
        let next := (step way).filter fun after => decide (way.place < after.place)
        let (found, seen) := next.foldl
          (fun (found : List Reached × List Nat) after =>
            let (more, seen) := closure step limit found.2 after
            (found.1 ++ more, seen))
          ([], way.place :: seen)
        (found ++ [way], seen)

/-- Ways to go on with a step at most a number of times. -/
def upTo (step : Reached → List Reached) : Nat → List Reached → List Reached
  | 0, ways => ways
  | count + 1, ways =>
      let next := distinct (ways.flatMap step)
      if next.isEmpty then ways else farthestFirst (upTo step count next) ways

/-- The places where a repetition of one character can end, the farthest
first. -/
def runEnds (text : Array Char) (set : CharacterSet) (least : Nat) (most : Option Nat)
    (way : Reached) : List Reached :=
  let length := runLength text set way.place (min (text.size - way.place) (most.getD text.size))
  if length < least then []
  else
    (List.range (length + 1 - least)).map fun i => { way with place := way.place + length - i }

/-- Where an expression that begins at a place can end. -/
def ends (text : Array Char) : Expression → Reached → List Reached
  | empty, way => [way]
  | one set, way =>
      match text[way.place]? with
      | some c => if set.contains c then [{ way with place := way.place + 1 }] else []
      | none => []
  | edge asked, way => if asked.holds text way.place then [way] else []
  | sequence first second, way => distinct ((ends text first way).flatMap (ends text second))
  | choice first second, way => farthestFirst (ends text first way) (ends text second way)
  | repeated (one set) least most, way => runEnds text set least most way
  | repeated inner least most, way =>
      let begun := times (ends text inner) least [way]
      match most with
      | some most => upTo (ends text inner) (most - least) begun
      | none =>
          distinct (begun.foldl
            (fun (found : List Reached × List Nat) way =>
              let (more, seen) := closure (ends text inner) (text.size + 1) found.2 way
              (found.1 ++ more, seen))
            ([], [])).1
  | group number inner, way =>
      (ends text inner way).map fun after =>
        { after with groups := (number, ⟨way.place, after.place⟩) :: after.groups }
  | reference number, way =>
      match way.group? number with
      | none => []
      | some extent =>
          let length := extent.last - extent.first
          if text.extract extent.first extent.last =
              text.extract way.place (way.place + length) then
            [{ way with place := way.place + length }]
          else []

/-! ## Searching -/

/-- A match: where it is, and what the groups have matched. -/
structure Match where
  extent : Extent
  groups : List (Nat × Extent)
  deriving DecidableEq, Repr

/-- What a group has matched; group zero is the whole. -/
def Match.group? (found : Match) (number : Nat) : Option Extent :=
  if number = 0 then some found.extent
  else (found.groups.find? fun entry => entry.1 = number).map Prod.snd

/-- The farthest of the places that are reached; of two ways there the first. -/
def farthest? (ways : List Reached) : Option Reached :=
  ways.foldl
    (fun best way =>
      match best with
      | none => some way
      | some other => if other.place < way.place then some way else some other)
    none

/-- The longest match that begins at a place. -/
def matchAt? (expression : Expression) (text : Array Char) (place : Nat) : Option Match :=
  (farthest? (expression.ends text ⟨place, []⟩)).map fun way =>
    ⟨⟨place, way.place⟩, way.groups⟩

/-- The expression can match at the beginning of a text only. -/
def isAnchored : Expression → Bool
  | edge .textStart => true
  | sequence first _ => first.isAnchored
  | choice first second => first.isAnchored && second.isAnchored
  | group _ inner => inner.isAnchored
  | _ => false

/-- The expression begins with any text, so that a match that begins at some
place can begin at any place before it. -/
def isFloating : Expression → Bool
  | repeated (one (.complement .empty)) 0 none => true
  | sequence first _ => first.isFloating
  | group _ inner => inner.isFloating
  | _ => false

/-- The first match among the places from one on, at most `limit` of them. -/
def findFrom? (expression : Expression) (text : Array Char) (place : Nat) : Nat → Option Match
  | 0 => none
  | limit + 1 =>
      match expression.matchAt? text place with
      | some found => some found
      | none => findFrom? expression text (place + 1) limit

/-- The leftmost match that does not begin before a place, and the longest one
there. -/
def find? (expression : Expression) (text : Array Char) (place : Nat) : Option Match :=
  if text.size < place then none
  else if expression.isAnchored then
    if place = 0 then expression.matchAt? text 0 else none
  else if expression.isFloating then expression.matchAt? text place
  else findFrom? expression text place (text.size + 1 - place)

/-- An expression matches somewhere in a text. -/
def occursIn (expression : Expression) (text : List Char) : Bool :=
  (expression.find? text.toArray 0).isSome

end Expression
end SyntaxCensus
