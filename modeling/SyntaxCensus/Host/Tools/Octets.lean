import SyntaxCensus.Host.Tools.Options

/-!
# Octets in digits

The tools that write the octets of texts in other characters: in digits of some
base, or in an alphabet of sixty-four letters.

Main definitions:

- `Dump.lines`: the octets of a text in digits, line by line.
- `Base64.encode`, `Base64.decode?`: octets in sixty-four letters.
- `Tools.od`, `Tools.base64`: the tools.
-/

namespace SyntaxCensus

/-! ## Dumps -/

namespace Dump

/-- How the octets of a field are shown. -/
inductive Kind where
  | octal
  | hexadecimal
  | signed
  | unsigned
  | characters
  | names
  deriving DecidableEq, Repr

/-- A way to show the octets of a line: how, how many make a field, and whether
what can be seen of them is put behind. -/
structure Format where
  kind : Kind
  size : Nat
  tail : Bool
  deriving DecidableEq, Repr

/-- How wide a field is at least, without the blank before it. -/
def Format.width (format : Format) : Nat :=
  match format.kind with
  | .octal => (format.size * 8 + 2) / 3
  | .hexadecimal => format.size * 2
  | .signed => match format.size with
    | 1 => 4
    | 2 => 6
    | 4 => 11
    | _ => 20
  | .unsigned => match format.size with
    | 1 => 3
    | 2 => 5
    | 4 => 10
    | _ => 20
  | .characters | .names => 3

/-- The names of the characters that cannot be seen. -/
def controlNames : List String :=
  ["nul", "soh", "stx", "etx", "eot", "enq", "ack", "bel", "bs", "ht", "nl", "vt", "ff", "cr",
    "so", "si", "dle", "dc1", "dc2", "dc3", "dc4", "nak", "syn", "etb", "can", "em", "sub", "esc",
    "fs", "gs", "rs", "us", "sp"]

/-- A number in digits with zeros in front. -/
def padded (base width value : Nat) : NarrowText :=
  let digits := Numeral.digits base false value
  List.replicate (width - digits.length) '0' ++ digits

/-- A text with blanks in front. -/
def alignRight (width : Nat) (text : NarrowText) : NarrowText :=
  List.replicate (width - text.length) ' ' ++ text

/-- An octet as a character, by an escape or in octal digits. -/
def shownCharacter (c : Char) : NarrowText :=
  if c = Char.ofNat 0 then ['\\', '0']
  else
    match Shown.escapeLetter? c with
    | some letter => ['\\', letter]
    | none => if Shown.isPrintable c then [c] else padded 8 3 c.toNat

/-- An octet by the name of the character of its lower seven bits. -/
def namedCharacter (c : Char) : NarrowText :=
  let code := c.toNat % 128
  if code = 127 then "del".toList
  else
    match controlNames[code]? with
    | some name => name.toList
    | none => [Char.ofNat code]

/-- The number that the octets of a field make, the lowest one first. -/
def fieldNumber (octets : NarrowText) : Nat :=
  octets.foldr (fun c value => value * 256 + c.toNat) 0

/-- The octets of a field as they are shown. -/
def Format.shown (format : Format) (octets : NarrowText) : NarrowText :=
  let value := fieldNumber octets
  match format.kind with
  | .octal => padded 8 format.width value
  | .hexadecimal => padded 16 format.width value
  | .unsigned => Numeral.ofNat value
  | .signed =>
      let range := (List.replicate format.size 256).foldl (fun product base => product * base) 1
      Numeral.ofInt (if range ≤ 2 * value then (value : Int) - range else value)
  | .characters => shownCharacter (octets.headD (Char.ofNat 0))
  | .names => namedCharacter (octets.headD (Char.ofNat 0))

/-- The stretches of a text of a length each; at most `limit` of them. -/
def chunks (size : Nat) : Nat → NarrowText → List NarrowText
  | 0, _ => []
  | _, [] => []
  | limit + 1, text => text.take size :: chunks size limit (text.drop size)

/-- How a dump is written: the base of the addresses, if there are any, the
octets of a line, and the formats; lines that repeat the one before may be left
out. -/
structure Layout where
  base : Option Nat := some 8
  width : Nat := 16
  formats : List Format := []
  repeats : Bool := false

/-- An address, padded to a width of seven digits, or of six in hexadecimal. -/
def Layout.address (layout : Layout) (place : Nat) : NarrowText :=
  match layout.base with
  | none => []
  | some base => padded base (if base = 16 then 6 else 7) place

/-- The width of a line in a format without what is put behind. -/
def Layout.widthOf (layout : Layout) (format : Format) : Nat :=
  (format.width + 1) * (layout.width / format.size)

/-- The octets of a line in a format. -/
def Layout.row (layout : Layout) (format : Format) (octets : NarrowText) : NarrowText :=
  let count := layout.width / format.size
  let widest := (layout.formats.map layout.widthOf).foldl max 0
  let spare := widest - layout.widthOf format
  let filled := octets ++
    List.replicate ((format.size - octets.length % format.size) % format.size) (Char.ofNat 0)
  let fields := (chunks format.size (filled.length + 1) filled).zipIdx.flatMap
    fun (field, index) =>
      let before := spare * (count - index) / count
      let after := spare * (count - index - 1) / count
      alignRight (format.width + 1 + before - after) (format.shown field)
  if format.tail then
    fields ++ List.replicate (widest - fields.length) ' ' ++ "  >".toList ++
      octets.map (fun c => if Shown.isPrintable c then c else '.') ++ ['<']
  else fields

/-- The lines for the octets of a line of a dump. -/
def Layout.rows (layout : Layout) (place : Nat) (octets : NarrowText) : NarrowText :=
  let front := layout.address place
  layout.formats.zipIdx.flatMap fun (format, index) =>
    (if index = 0 then front else List.replicate front.length ' ') ++
      layout.row format octets ++ ['\n']

/-- The lines for stretches of octets, where a line that is left out leaves a
mark behind once. -/
def Layout.allRows (layout : Layout) (place : Nat) (before : Option NarrowText) (marked : Bool) :
    List NarrowText → NarrowText
  | [] => []
  | octets :: rest =>
      if !layout.repeats && before = some octets && octets.length = layout.width then
        (if marked then [] else ['*', '\n']) ++
          layout.allRows (place + octets.length) before true rest
      else
        layout.rows place octets ++
          layout.allRows (place + octets.length) (some octets) false rest

/-- The octets of a text in digits, with the address behind the last one. -/
def lines (layout : Layout) (start : Nat) (text : NarrowText) : NarrowText :=
  layout.allRows start none false (chunks layout.width (text.length + 1) text) ++
    match layout.base with
    | none => []
    | some _ => layout.address (start + text.length) ++ ['\n']

/-- The size of a field that a text begins with, for one of a kind. -/
def readSize (text : NarrowText) : Nat × NarrowText :=
  match text with
  | 'C' :: rest => (1, rest)
  | 'S' :: rest => (2, rest)
  | 'I' :: rest => (4, rest)
  | 'L' :: rest => (8, rest)
  | text =>
      match Numeral.decimal? text with
      | some (size, rest) => (size, rest)
      | none => (4, text)

/-- The formats that a text spells; at most `limit` of them. -/
def readFormats (whole : NarrowText) : Nat → NarrowText → Except NarrowText (List Format)
  | 0, _ | _, [] => .ok []
  | limit + 1, c :: rest => do
      let numbers (kind : Kind) : Except NarrowText (Format × NarrowText) :=
        let (size, rest) := readSize rest
        if [1, 2, 4, 8].contains size then .ok (⟨kind, size, false⟩, rest)
        else
          .error ("invalid type string ".toList ++ Shown.text whole ++
            ";\nthis system doesn't provide a ".toList ++ Numeral.ofNat size ++
            "-byte integral type".toList)
      let (format, rest) ←
        match c with
        | 'o' => numbers .octal
        | 'x' => numbers .hexadecimal
        | 'd' => numbers .signed
        | 'u' => numbers .unsigned
        | 'c' => .ok (⟨.characters, 1, false⟩, rest)
        | 'a' => .ok (⟨.names, 1, false⟩, rest)
        | c =>
            .error ("invalid character '".toList ++ c :: "' in type string ".toList ++
              Shown.text whole)
      let (format, rest) :=
        match rest with
        | 'z' :: rest => ({ format with tail := true }, rest)
        | rest => (format, rest)
      return format :: (← readFormats whole limit rest)

end Dump

/-! ## Sixty-four letters -/

namespace Base64

/-- The letters of the alphabet. -/
def alphabet : NarrowText :=
  "ABCDEFGHIJKLMNOPQRSTUVWXYZabcdefghijklmnopqrstuvwxyz0123456789+/".toList

/-- The letter of a value. -/
def letter (value : Nat) : Char :=
  alphabet.getD (value % 64) 'A'

/-- The value of a letter. -/
def value? (c : Char) : Option Nat :=
  alphabet.findIdx? fun known => known = c

/-- Octets in letters, four for three of them; what is missing at the end is
filled with equals signs. -/
def encode : NarrowText → NarrowText
  | [] => []
  | [a] =>
      let bits := a.toNat * 16
      [letter (bits / 64), letter bits, '=', '=']
  | [a, b] =>
      let bits := (a.toNat * 256 + b.toNat) * 4
      [letter (bits / 4096), letter (bits / 64), letter bits, '=']
  | a :: b :: c :: rest =>
      let bits := (a.toNat * 256 + b.toNat) * 256 + c.toNat
      letter (bits / 262144) :: letter (bits / 4096) :: letter (bits / 64) :: letter bits ::
        encode rest

/-- The octets of a number of bits. -/
def octets (count bits : Nat) : NarrowText :=
  [bits / 65536, bits / 256, bits].drop (3 - count) |>.map fun value => Char.ofNat (value % 256)

/-- The octets of the letters in front that make no whole group. -/
def decodeFront (letters : NarrowText) : NarrowText :=
  match (letters.map value?).takeWhile Option.isSome with
  | [some a, some b] => octets 1 ((a * 64 + b) / 16)
  | [some a, some b, some c] => octets 2 (((a * 64 + b) * 64 + c) / 4)
  | _ => []

/-- The octets that letters stand for, as far as they can be read, and whether
there is nothing else. -/
def decode? : NarrowText → NarrowText × Bool
  | [] => ([], true)
  | [a, b, '=', '='] =>
      match value? a, value? b with
      | some a, some b => (octets 1 ((a * 64 + b) / 16), true)
      | _, _ => ([], false)
  | [a, b, c, '='] =>
      match value? a, value? b, value? c with
      | some a, some b, some c => (octets 2 (((a * 64 + b) * 64 + c) / 4), true)
      | _, _, _ => (decodeFront [a, b, c], false)
  | a :: b :: c :: d :: rest =>
      match value? a, value? b, value? c, value? d with
      | some a, some b, some c, some d =>
          let (others, fine) := decode? rest
          (octets 3 (((a * 64 + b) * 64 + c) * 64 + d) ++ others, fine)
      | _, _, _, _ => (decodeFront [a, b, c, d], false)
  | letters => (decodeFront letters, false)

end Base64

namespace Tools

/-! ## The tools -/

/-- The formats that letters stand for by themselves. -/
def dumpLetters : List (String × Dump.Format) :=
  [("a", ⟨.names, 1, false⟩), ("b", ⟨.octal, 1, false⟩), ("c", ⟨.characters, 1, false⟩),
    ("d", ⟨.unsigned, 2, false⟩), ("i", ⟨.signed, 4, false⟩), ("l", ⟨.signed, 8, false⟩),
    ("o", ⟨.octal, 2, false⟩), ("s", ⟨.signed, 2, false⟩), ("x", ⟨.hexadecimal, 2, false⟩)]

/-- A number of octets as an option gives it. -/
def octetCount (tool option text : NarrowText) : Work Nat :=
  match Numeral.marked? text with
  | some (count, []) => return count
  | some (count, ['b']) => return count * 512
  | some (count, ['k']) => return count * 1024
  | some (count, ['K']) => return count * 1024
  | some (count, ['m']) => return count * 1048576
  | _ => Work.fail tool 1 ("invalid ".toList ++ option ++ " argument ".toList ++ Work.quoted text)

/-- The formats that options ask for, in order. -/
def dumpFormats (tool : NarrowText) : List (String × NarrowText) → Work (List Dump.Format)
  | [] => return []
  | (key, value) :: rest => do
      let found ←
        if key = "t" then
          match Dump.readFormats value (value.length + 1) value with
          | .ok formats => pure formats
          | .error problem => Work.fail tool 1 problem
        else pure (((dumpLetters.find? fun entry => entry.1 = key).map Prod.snd).toList)
      return found ++ (← dumpFormats tool rest)

/-- Write the octets of texts in digits. -/
def od : Tool := fun _ tool arguments => do
  let found ← optionsOf tool 1
    ([valued 'A' "address-radix", valued 'j' "skip-bytes", valued 'N' "read-bytes",
      valued 't' "format", option 'v' "output-duplicates",
      ⟨"w", some 'w', some "width", .perhaps⟩] ++ dumpLetters.map fun entry =>
        flag (entry.1.toList.headD 'o')) true arguments
  let base ←
    match found.value? "A" with
    | none => pure (some 8)
    | some ['d'] => pure (some 10)
    | some ['o'] => pure (some 8)
    | some ['x'] => pure (some 16)
    | some ['n'] => pure none
    | some other =>
        Work.fail tool 1 ("invalid output address radix '".toList ++ other.take 1 ++
          "'; it must be one character from [doxn]".toList)
  let skipped ←
    match found.value? "j" with
    | some text => octetCount tool "-j".toList text
    | none => pure 0
  let formats ← dumpFormats tool found.options
  let width ←
    match found.value? "w" with
    | none => pure 16
    | some [] => pure 32
    | some text => octetCount tool "-w".toList text
  let layout : Dump.Layout :=
    { base
      width := max 1 width
      formats := if formats.isEmpty then [⟨.octal, 2, false⟩] else formats
      repeats := found.has "v" }
  let (texts, fine) ← Work.readTexts tool (Work.orInput found.operands)
  let whole := (texts.map Prod.snd).flatten.drop skipped
  let text ←
    match found.value? "N" with
    | some count => do pure (whole.take (← octetCount tool "-N".toList count))
    | none => pure whole
  if !texts.isEmpty then Work.print tool (Dump.lines layout skipped text)
  return Work.statusOf fine

/-- A text in lines of a width. -/
def wrapLines (width : Nat) (text : NarrowText) : NarrowText :=
  if width = 0 then text
  else (Dump.chunks width (text.length + 1) text).flatMap fun line => line ++ ['\n']

/-- Write a text in sixty-four letters, or read it back. -/
def base64 : Tool := fun _ tool arguments => do
  let found ← optionsOf tool 1
    [option 'd' "decode", option 'i' "ignore-garbage", valued 'w' "wrap"] true arguments
  match found.operands with
  | _ :: second :: _ => extraOperand tool second
  | _ => pure ()
  let width ←
    match found.value? "w" with
    | none => pure 76
    | some text =>
        match Numeral.natural? text with
        | some width => pure width
        | none => Work.fail tool 1 ("invalid wrap size: ".toList ++ Work.quoted text)
  let name := found.operands.headD ['-']
  match ← Work.readNamed name with
  | .error fault => do
      Work.complainAbout tool name fault
      return 1
  | .ok text =>
      if found.has "d" then
        let letters := text.filter fun c =>
          c ≠ '\n' && (!found.has "i" || c = '=' || (Base64.value? c).isSome)
        let (octets, fine) := Base64.decode? letters
        Work.print tool octets
        if !fine then Work.complain tool "invalid input".toList
        return Work.statusOf fine
      else do
        Work.print tool (wrapLines width (Base64.encode text))
        return 0

end Tools
end SyntaxCensus
