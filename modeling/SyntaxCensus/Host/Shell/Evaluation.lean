import SyntaxCensus.Host.Shell.Calculation
import SyntaxCensus.Host.Shell.Elements

/-!
# Values of calculations

A calculation works on the variables of the shell, whose values have to be
numbers; a variable without a value counts as zero.  In the extended language
a value may itself be a calculation, and elements can be named.

Main definitions:

- `Calculation.evaluate`: the value of a calculation.
- `Run.calculate`: the value of the calculation that a text spells.
- `Run.putElement`: give a value to an element of a variable.
-/

namespace SyntaxCensus
namespace Shell

/-- How the variables of calculations are read and changed. -/
structure Variables where
  numberIn : NarrowText → Run Int
  assign : NarrowText → NarrowText → Run Unit

namespace Calculation

/-- The part of a calculation behind the mark of its last division, without
blanks in front. -/
def behindDivision (whole : NarrowText) : NarrowText :=
  let part := (whole.reverse.takeWhile fun c => c ≠ '/' && c ≠ '%').reverse
  part.dropWhile fun c => Numeral.isSpace c || c = '='

/-- What an operator gives for two numbers. -/
def applied (whole : NarrowText) (operator : BinaryOperator) (a b : Int) : Run Int := do
  match operator.result? a b with
  | some value => return value
  | none =>
      if (← get).extended then
        Run.slip (whole.dropWhile Numeral.isSpace ++
          ": division by 0 (error token is \"".toList ++ behindDivision whole ++ "\")".toList)
      else Run.fault ("arithmetic expression: division by zero: \"".toList ++ whole ++ ['"'])

/-- The value of a calculation; `whole` is the text that it is read from. -/
def evaluate (scope : Variables) (whole : NarrowText) : Calculation → Run Int
  | number value => return value
  | .variable name => scope.numberIn name
  | unary operator operand => return operator.apply (← evaluate scope whole operand)
  | binary operator first second => do
      let a ← evaluate scope whole first
      let b ← evaluate scope whole second
      applied whole operator a b
  | both first second => do
      if (← evaluate scope whole first) = 0 then return 0
      else return truth ((← evaluate scope whole second) ≠ 0)
  | either first second => do
      if (← evaluate scope whole first) ≠ 0 then return 1
      else return truth ((← evaluate scope whole second) ≠ 0)
  | choice condition accepted refused => do
      if (← evaluate scope whole condition) ≠ 0 then evaluate scope whole accepted
      else evaluate scope whole refused
  | assignment operator name value => do
      let value ← evaluate scope whole value
      let value ←
        match operator with
        | none => pure value
        | some operator => do applied whole operator (← scope.numberIn name) value
      scope.assign name (Numeral.ofInt value)
      return value
  | step name change late => do
      let before ← scope.numberIn name
      let after := Numeral.wrap (before + change)
      scope.assign name (Numeral.ofInt after)
      return if late then before else after
  | sequence first second => do
      let _ ← evaluate scope whole first
      evaluate scope whole second

end Calculation

namespace Run

/-- The number in a variable of a plain shell. -/
def numberIn (name : NarrowText) : Run Int := do
  let s ← get
  match s.value? name with
  | none =>
      if s.isOn 'u' then fault (name ++ ": parameter not set".toList) else return 0
  | some value =>
      if value.all Numeral.isSpace then return 0
      else
        match Numeral.integer? Numeral.marked? value with
        | some number => return number
        | none => fault ("Illegal number: ".toList ++ value)

/-- The name of a variable and the index behind it, if there is one. -/
def splitIndex (name : NarrowText) : NarrowText × Option NarrowText :=
  match name.dropWhile (· ≠ '[') with
  | _ :: index => (name.takeWhile (· ≠ '['), some index.dropLast)
  | [] => (name, none)

/-- Give a value to an element of a variable. -/
def putElement (name key value : NarrowText) : Run Unit := do
  let elements ← elementsIn name
  putElements name (elements.put key value)

/-- The key of an element, whose number is calculated unless elements have
names. -/
def keyOf (calculate : NarrowText → Run Int) (name index : NarrowText) : Run NarrowText := do
  if (← get).hasNames name then return index
  else
    let number ← calculate index
    match (← elementsIn name).number number with
    | some number => return Numeral.ofNat number
    | none => fault (name ++ '[' :: index ++ "]: bad array subscript".toList)

/-- How deep values of variables may name further scope. -/
def maxReferences : Nat := 40

/-- The value of the calculation that a text spells in the extended language;
values are followed at most `limit` times. -/
def calculateExtended : Nat → NarrowText → Run Int
  | 0, text => slip (text ++ ": expression recursion level exceeded".toList)
  | limit + 1, text => do
      if text.all Numeral.isSpace then return 0
      let numberIn (name : NarrowText) : Run Int := do
        let (base, index) := splitIndex name
        let s ← get
        let value? ←
          match index with
          | none => pure (s.value? base)
          | some index => do
              let key ← keyOf (calculateExtended limit) base index
              pure (s.element? base key)
        match value? with
        | none =>
            if s.isOn 'u' then fault (name ++ ": unbound variable".toList) else return 0
        | some value =>
            match Numeral.integer? Numeral.marked? value with
            | some number => return number
            | none => calculateExtended limit value
      let assign (name value : NarrowText) : Run Unit := do
        match splitIndex name with
        | (base, none) => Run.assign base value
        | (base, some index) => do
            let key ← keyOf (calculateExtended limit) base index
            putElement base key value
      match Calculation.read true text with
      | .ok found => found.evaluate ⟨numberIn, assign⟩ text
      | .error (.expecting _) =>
          slip (text ++ ": syntax error: operand expected".toList)

/-- The value of the calculation that a text spells. -/
def calculate (text : NarrowText) : Run Int := do
  if (← get).extended then calculateExtended maxReferences text
  else
    match Calculation.read false text with
    | .ok found => found.evaluate ⟨numberIn, Run.assign⟩ text
    | .error (.expecting what) =>
        fault (s!"arithmetic expression: expecting {what}: \"".toList ++ text ++ ['"'])

/-- The key of an element that an index spells. -/
def elementKey (name index : NarrowText) : Run NarrowText :=
  keyOf calculate name index

/-- Give a value to a variable, or to one of its elements that an index behind
its name spells. -/
def store (name value : NarrowText) : Run Unit := do
  match (← get).extended, splitIndex name with
  | true, (base, some index) => putElement base (← elementKey base index) value
  | _, _ => assign name value

end Run
end Shell
end SyntaxCensus
