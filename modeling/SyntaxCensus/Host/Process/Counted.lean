import SyntaxCensus.Host.Process.Conditions

/-!
# Conditions in words

Conditions whose words are understood by how many of them there are: up to
four words in fixed ways, and more of them with operators.

Main definitions:

- `ConditionStyle`: what is said about words that are no condition.
- `Counted.evaluate`: whether the condition that words spell holds.
-/

namespace SyntaxCensus

/-- What is said about words that are no condition, how numbers are read, and
which further tests there are. -/
structure ConditionStyle where
  missing : NarrowText → NarrowText
  noSingle : NarrowText → NarrowText
  noPair : NarrowText → NarrowText
  noDouble : NarrowText → NarrowText
  extra : NarrowText → NarrowText
  unclosed : Option NarrowText → NarrowText
  number : NarrowText → Except NarrowText Int
  further : NarrowText → Option (NarrowText → Bool)

namespace Counted

/-- A step of testing: the words from the present one on, and a complaint. -/
abbrev Step (α : Type) := StateT (List NarrowText) (Except NarrowText) α

/-- What the tests know: the style, the process, and the last of all words. -/
structure Setting where
  style : ConditionStyle
  process : Process
  last : NarrowText

/-- The test of two texts that a word names. -/
def double? (word : NarrowText) : Option Testing.Double :=
  if word = ['=', '='] then some .same else Testing.double? word

/-- Complain that a word is missing. -/
def beyond {α : Type} (setting : Setting) : Step α :=
  throw (setting.style.missing setting.last)

/-- Take the next word. -/
def next (setting : Setting) : Step NarrowText := do
  match ← get with
  | [] => beyond setting
  | word :: rest => do
      set rest
      return word

/-- One word, which must not be empty. -/
def one (setting : Setting) : Step Bool := do
  return !(← next setting).isEmpty

/-- A test of one text. -/
def single (setting : Setting) : Step Bool := do
  let name ← next setting
  match Testing.single? name, setting.style.further name with
  | none, none => throw (setting.style.noSingle name)
  | some test, _ => do
      let text ← next setting
      test.holds setting.style.number setting.process text
  | none, some test => do return test (← next setting)

/-- A test of two texts. -/
def double (setting : Setting) (test : Testing.Double) : Step Bool := do
  let first ← next setting
  let _ ← next setting
  let second ← next setting
  test.holds setting.style.number setting.process first second

/-- A word that looks like the name of a test of one text. -/
def looksSingle (word : NarrowText) : Bool :=
  match word with
  | ['-', _] => true
  | _ => false

/-- Two words. -/
def two (setting : Setting) : Step Bool := do
  let word := (← get).headD []
  if word = ['!'] then
    let _ ← next setting
    return !(← one setting)
  else if looksSingle word then single setting
  else throw (setting.style.noPair word)

mutual

/-- Conditions of which one has to hold; at most `limit` steps. -/
def either (setting : Setting) : Nat → Step Bool
  | 0 => return false
  | limit + 1 => do
      if (← get).isEmpty then beyond setting
      let first ← both setting limit
      if (← get).head? = some ['-', 'o'] then
        let _ ← next setting
        let second ← either setting limit
        return first || second
      else return first

/-- Conditions that all have to hold. -/
def both (setting : Setting) : Nat → Step Bool
  | 0 => return false
  | limit + 1 => do
      let first ← term setting limit
      if (← get).head? = some ['-', 'a'] then
        let _ ← next setting
        let second ← both setting limit
        return first && second
      else return first

/-- A test, a condition that must not hold, or one in parentheses. -/
def term (setting : Setting) : Nat → Step Bool
  | 0 => return false
  | limit + 1 => do
      match ← get with
      | [] => beyond setting
      | ['!'] :: rest => do
          set rest
          if rest.isEmpty then beyond setting
          return !(← term setting limit)
      | ['('] :: rest => do
          set rest
          if rest.isEmpty then beyond setting
          let inside := (rest.drop 1).takeWhile fun word => word ≠ [')']
          let count := if 3 < inside.length then rest.length else inside.length + 1
          let holds ← counted setting count limit
          match ← get with
          | [] => throw (setting.style.unclosed none)
          | word :: after => do
              if word ≠ [')'] then throw (setting.style.unclosed (some word))
              set after
              return holds
      | word :: rest =>
          match rest with
          | name :: _ :: _ =>
              match double? name with
              | some test => double setting test
              | none => plain word
          | _ => plain word
where
  /-- A test of one text, or a word that must not be empty. -/
  plain (word : NarrowText) : Step Bool :=
    if looksSingle word then single setting else one setting

/-- A number of words. -/
def counted (setting : Setting) (count : Nat) : Nat → Step Bool
  | 0 => return false
  | limit + 1 => do
      match count, ← get with
      | 1, _ => one setting
      | 2, _ => two setting
      | 3, words => three words limit
      | 4, words => do
          if words.head? = some ['!'] then
            let _ ← next setting
            return !(← three words.tail limit)
          else if words.head? = some ['('] ∧ words[3]? = some [')'] then
            let _ ← next setting
            let holds ← two setting
            let _ ← next setting
            return holds
          else either setting limit
      | _, _ => either setting limit
where
  /-- Three words. -/
  three (words : List NarrowText) (limit : Nat) : Step Bool := do
    let first := words.headD []
    let name := (words.drop 1).headD []
    match double? name with
    | some test => double setting test
    | none =>
        if first = ['!'] then
          let _ ← next setting
          return !(← two setting)
        else if first = ['('] ∧ words[2]? = some [')'] then
          let _ ← next setting
          let holds ← one setting
          let _ ← next setting
          return holds
        else if name = ['-', 'a'] ∨ name = ['-', 'o'] then either setting limit
        else throw (setting.style.noDouble name)

end

/-- Whether the condition that words spell holds. -/
def evaluate (style : ConditionStyle) (s : Process) (words : List NarrowText) :
    Except NarrowText Bool := do
  if words.isEmpty then return false
  let setting : Setting := ⟨style, s, words.getLastD []⟩
  let (holds, rest) ← (counted setting words.length (4 * words.length + 8)).run words
  match rest with
  | [] => return holds
  | word :: _ => throw (style.extra word)

end Counted

end SyntaxCensus
