import SyntaxCensus.Host.Tools.Options

/-!
# Dates

The tool that tells the time.  Days are counted from the beginning of the year
1970, and every day has 86400 seconds.

Main definitions:

- `Moment.ofSeconds`: the date and the time of a number of seconds.
- `Moment.toSeconds`: the number of seconds of a date and a time.
- `Moment.format`: a moment as a format says.
- `Tools.date`: the tool.
-/

namespace SyntaxCensus

/-- A date and a time of day. -/
structure Moment where
  year : Int
  month : Nat
  day : Nat
  hour : Nat
  minute : Nat
  second : Nat
  deriving DecidableEq, Repr

namespace Moment

/-- The number of the day of a date, counted from the beginning of 1970.  A
year is taken to begin in March, so that a leap day is its last one. -/
def dayNumber (year : Int) (month day : Nat) : Int :=
  let shifted := if month ≤ 2 then year - 1 else year
  let era := shifted.fdiv 400
  let inEra := shifted - era * 400
  let inYear : Int := (153 * ((month + 9) % 12) + 2) / 5 + day - 1
  era * 146097 + inEra * 365 + inEra / 4 - inEra / 100 + inYear - 719468

/-- The date of a day. -/
def dateOf (number : Int) : Int × Nat × Nat :=
  let shifted := number + 719468
  let era := shifted.fdiv 146097
  let inEra := shifted - era * 146097
  let yearOfEra := (inEra - inEra / 1460 + inEra / 36524 - inEra / 146096) / 365
  let inYear := inEra - (365 * yearOfEra + yearOfEra / 4 - yearOfEra / 100)
  let place := (5 * inYear + 2) / 153
  let day := (inYear - (153 * place + 2) / 5 + 1).toNat
  let month := (if place < 10 then place + 3 else place - 9).toNat
  (yearOfEra + era * 400 + (if month ≤ 2 then 1 else 0), month, day)

/-- The date and the time of a number of seconds. -/
def ofSeconds (seconds : Int) : Moment :=
  let day := seconds.fdiv 86400
  let rest := (seconds - day * 86400).toNat
  let (year, month, dayOfMonth) := dateOf day
  ⟨year, month, dayOfMonth, rest / 3600, rest / 60 % 60, rest % 60⟩

/-- The number of seconds of a date and a time. -/
def toSeconds (moment : Moment) : Int :=
  dayNumber moment.year moment.month moment.day * 86400 +
    (moment.hour * 3600 + moment.minute * 60 + moment.second : Nat)

/-- The number of the day of the week, from Sunday on. -/
def weekday (moment : Moment) : Nat :=
  ((dayNumber moment.year moment.month moment.day + 4) % 7).toNat

/-- The number of the day of the year, from one on. -/
def dayOfYear (moment : Moment) : Nat :=
  (dayNumber moment.year moment.month moment.day - dayNumber moment.year 1 1 + 1).toNat

/-- The week of the year when weeks begin on a day of the week. -/
def week (first : Nat) (moment : Moment) : Nat :=
  (moment.dayOfYear + 6 - (moment.weekday + 7 - first) % 7) / 7

/-- The year and the number of a week that belongs to the year in which most of
its days are. -/
def isoWeek (moment : Moment) : Int × Nat :=
  let day := dayNumber moment.year moment.month moment.day
  let thursday := day - (moment.weekday + 6) % 7 + 3
  let (year, _, _) := dateOf thursday
  (year, ((thursday - dayNumber year 1 1) / 7).toNat + 1)

/-- The names of the days of the week. -/
def dayNames : List String :=
  ["Sunday", "Monday", "Tuesday", "Wednesday", "Thursday", "Friday", "Saturday"]

/-- The names of the months. -/
def monthNames : List String :=
  ["January", "February", "March", "April", "May", "June", "July", "August", "September",
    "October", "November", "December"]

/-- A number with a mark in front up to a width. -/
def padded (mark : Option Char) (width : Nat) (value : Int) : NarrowText :=
  let digits := Numeral.ofNat value.natAbs
  let sign := if value < 0 then ['-'] else []
  match mark with
  | none => sign ++ digits
  | some mark => sign ++ List.replicate (width - digits.length) mark ++ digits

/-- What a letter of a format stands for: a number with the mark and the width
that it is shown with, a text, or further directives. -/
inductive Part where
  | number (mark : Char) (width : Nat) (value : Int)
  | text (text : NarrowText)
  | directives (format : String)

/-- What a letter of a format stands for. -/
def part? (moment : Moment) (letter : Char) : Option Part :=
  let dayName := (dayNames.getD moment.weekday "").toList
  let monthName := (monthNames.getD (moment.month - 1) "").toList
  let hour12 := if moment.hour % 12 = 0 then 12 else moment.hour % 12
  match letter with
  | 'a' => some (.text (dayName.take 3))
  | 'A' => some (.text dayName)
  | 'b' | 'h' => some (.text (monthName.take 3))
  | 'B' => some (.text monthName)
  | 'c' => some (.directives "%a %b %e %H:%M:%S %Y")
  | 'C' => some (.number '0' 2 (moment.year.fdiv 100))
  | 'd' => some (.number '0' 2 moment.day)
  | 'D' | 'x' => some (.directives "%m/%d/%y")
  | 'e' => some (.number ' ' 2 moment.day)
  | 'F' => some (.directives "%Y-%m-%d")
  | 'g' => some (.number '0' 2 (moment.isoWeek.1 % 100))
  | 'G' => some (.number '0' 4 moment.isoWeek.1)
  | 'H' => some (.number '0' 2 moment.hour)
  | 'I' => some (.number '0' 2 hour12)
  | 'j' => some (.number '0' 3 moment.dayOfYear)
  | 'k' => some (.number ' ' 2 moment.hour)
  | 'l' => some (.number ' ' 2 hour12)
  | 'm' => some (.number '0' 2 moment.month)
  | 'M' => some (.number '0' 2 moment.minute)
  | 'n' => some (.text ['\n'])
  | 'N' => some (.text "000000000".toList)
  | 'p' => some (.text (if moment.hour < 12 then "AM" else "PM").toList)
  | 'P' => some (.text (if moment.hour < 12 then "am" else "pm").toList)
  | 'q' => some (.number '0' 1 ((moment.month + 2) / 3 : Nat))
  | 'r' => some (.directives "%I:%M:%S %p")
  | 'R' => some (.directives "%H:%M")
  | 's' => some (.number '0' 1 moment.toSeconds)
  | 'S' => some (.number '0' 2 moment.second)
  | 't' => some (.text ['\t'])
  | 'T' | 'X' => some (.directives "%H:%M:%S")
  | 'u' => some (.number '0' 1 (if moment.weekday = 0 then 7 else moment.weekday : Nat))
  | 'U' => some (.number '0' 2 (moment.week 0))
  | 'V' => some (.number '0' 2 moment.isoWeek.2)
  | 'w' => some (.number '0' 1 moment.weekday)
  | 'W' => some (.number '0' 2 (moment.week 1))
  | 'y' => some (.number '0' 2 (moment.year % 100))
  | 'Y' => some (.number '0' 4 moment.year)
  | 'z' => some (.text "+0000".toList)
  | 'Z' => some (.text "UTC".toList)
  | '%' => some (.text ['%'])
  | _ => none

/-- The marks between a percent sign and a letter: how numbers are filled, and
whether letters are made large. -/
structure Marks where
  fill : Option (Option Char) := none
  large : Bool := false
  width : Option Nat := none

/-- Read the marks of a directive. -/
def readMarks (marks : Marks) : NarrowText → Marks × NarrowText
  | '-' :: rest => readMarks { marks with fill := some none } rest
  | '_' :: rest => readMarks { marks with fill := some (some ' ') } rest
  | '0' :: rest => readMarks { marks with fill := some (some '0') } rest
  | '^' :: rest => readMarks { marks with large := true } rest
  | text =>
      match Numeral.decimal? text with
      | some (width, rest) => ({ marks with width := some width }, rest)
      | none => (marks, text)

/-- A part of a format with its marks. -/
def Marks.shown (marks : Marks) : Part → NarrowText
  | .number mark width value =>
      padded (marks.fill.getD (some mark)) (marks.width.getD width) value
  | .text text =>
      let text := if marks.large then text.map Char.toUpper else text
      let fill := (marks.fill.getD (some ' ')).getD ' '
      List.replicate (marks.width.getD 0 - text.length) fill ++ text
  | .directives _ => []

/-- A moment as a format says; at most `limit` steps. -/
def format (moment : Moment) : Nat → NarrowText → NarrowText
  | 0, _ | _, [] => []
  | limit + 1, '%' :: rest =>
      let (marks, after) := readMarks {} rest
      match after with
      | ':' :: 'z' :: more => "+00:00".toList ++ moment.format limit more
      | letter :: more =>
          match moment.part? letter with
          | some (.directives inner) =>
              let text := moment.format limit inner.toList
              marks.shown (.text text) ++ moment.format limit more
          | some part => marks.shown part ++ moment.format limit more
          | none => '%' :: letter :: moment.format limit more
      | [] => ['%']
  | limit + 1, c :: rest => c :: moment.format limit rest

/-! ## Reading -/

/-- Three numbers with a mark between them. -/
def threeNumbers? (mark : Char) (text : NarrowText) : Option (Nat × Nat × Nat) :=
  match (Text.stretches mark text).map Numeral.natural? with
  | [some a, some b, some c] => some (a, b, c)
  | _ => none

/-- The time of day that a text spells. -/
def time? (text : NarrowText) : Option (Nat × Nat × Nat) :=
  let found :=
    match (Text.stretches ':' text).map Numeral.natural? with
    | [some hour, some minute] => some (hour, minute, 0)
    | _ => threeNumbers? ':' text
  found.filter fun (hour, minute, second) => hour < 24 && minute < 60 && second < 61

/-- The date that a text spells. -/
def date? (text : NarrowText) : Option (Nat × Nat × Nat) :=
  (threeNumbers? '-' text).filter fun (_, month, day) =>
    1 ≤ month && month ≤ 12 && 1 ≤ day && day ≤ 31

/-- The number of seconds of the moment that a text spells, seen from now. -/
def read? (now : Int) (text : NarrowText) : Option Int :=
  let words := (Text.stretches ' ' text).flatMap fun word =>
    if word.head?.any Char.isDigit then Text.stretches 'T' word else [word]
  let words := words.map fun word =>
    if word.getLast? = some 'Z' then word.dropLast else word
  let words := words.filter fun word => !word.isEmpty && word ≠ "UTC".toList
  match text, words with
  | '@' :: digits, _ =>
      match Numeral.signed? Numeral.decimal? digits with
      | some (value, []) => some value
      | _ => none
  | _, [] => some (now - now % 86400)
  | _, [word] =>
      if word = "now".toList ∨ word = "today".toList then some now
      else if word = "yesterday".toList then some (now - 86400)
      else if word = "tomorrow".toList then some (now + 86400)
      else
        match date? word, time? word with
        | some (year, month, day), _ => some (toSeconds ⟨year, month, day, 0, 0, 0⟩)
        | none, some (hour, minute, second) =>
            some (now - now % 86400 + (hour * 3600 + minute * 60 + second : Nat))
        | none, none => none
  | _, [first, second] =>
      match date? first, time? second with
      | some (year, month, day), some (hour, minute, second) =>
          some (toSeconds ⟨year, month, day, hour, minute, second⟩)
      | _, _ => none
  | _, _ => none

end Moment

namespace Tools

/-- When the clock of a process begins, in seconds. -/
def beginning : Int := 1700000000

/-- The format in which a date is told that has a precision. -/
def isoFormat (precision : NarrowText) : NarrowText :=
  match String.ofList precision with
  | "hours" => "%Y-%m-%dT%H%:z".toList
  | "minutes" => "%Y-%m-%dT%H:%M%:z".toList
  | "seconds" => "%Y-%m-%dT%H:%M:%S%:z".toList
  | "ns" => "%Y-%m-%dT%H:%M:%S,%N%:z".toList
  | _ => "%Y-%m-%d".toList

/-- Tell the time. -/
def date : Tool := fun _ tool arguments => do
  let found ← optionsOf tool 1
    [valued 'd' "date", option 'u' "universal", ⟨"u", none, some "utc", .never⟩,
      ⟨"I", some 'I', some "iso-8601", .perhaps⟩, ⟨"R", some 'R', some "rfc-email", .never⟩,
      valued 'r' "reference", longValued "rfc-3339"] true arguments
  let now := beginning + ((← get).clock / 1000 : Nat)
  let seconds ←
    match found.value? "d" with
    | none => pure now
    | some text =>
        match Moment.read? now text with
        | some seconds => pure seconds
        | none => Work.fail tool 1 ("invalid date ".toList ++ Work.quoted text)
  let moment := Moment.ofSeconds seconds
  let format ←
    match found.operands with
    | [] =>
        if found.has "R" then pure "%a, %d %b %Y %H:%M:%S %z".toList
        else
          match found.value? "I" with
          | some precision => pure (isoFormat precision)
          | none => pure "%a %b %e %H:%M:%S %Z %Y".toList
    | ['+' :: format] => pure format
    | [other] => Work.fail tool 1 ("invalid date ".toList ++ Work.quoted other)
    | _ :: second :: _ => extraOperand tool second
  Work.print tool (moment.format (16 * format.length + 64) format ++ ['\n'])
  return 0

/-- Tell the name of the machine. -/
def hostname : Tool := fun _ tool _ => do
  Work.print tool "localhost\n".toList
  return 0

/-- Tell how many processors there are. -/
def processors : Tool := fun _ tool _ => do
  Work.print tool "1\n".toList
  return 0

end Tools
end SyntaxCensus
