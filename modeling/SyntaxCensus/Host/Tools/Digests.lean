import SyntaxCensus.Host.Tools.Octets

/-!
# Digests

The tools that write a short number for a text from which the text cannot be
told, and which changes with each octet of it.

Main definitions:

- `Digest.md5`, `Digest.sha1`, `Digest.sha256`: digests of words of 32 bits.
- `Digest.sum`: a remainder in the arithmetic of bits.
- `Tools.md5sum`, `Tools.cksum`: some of the tools.
-/

namespace SyntaxCensus
namespace Digest

/-! ## Words -/

/-- A word with its bits moved to the left, where those that leave it come
back. -/
def rotate (word : UInt32) (count : UInt32) : UInt32 :=
  (word <<< count) ||| (word >>> (32 - count))

/-- The octets of a word, the highest one first. -/
def wordOctets (word : UInt32) : List UInt8 :=
  [(word >>> 24).toUInt8, (word >>> 16).toUInt8, (word >>> 8).toUInt8, word.toUInt8]

/-- The word of four octets, the highest one first. -/
def wordOf : List UInt8 → UInt32
  | octets => octets.foldl (fun word octet => (word <<< 8) ||| octet.toUInt32) 0

/-- The words of a list of octets; `lowFirst` says in which order the octets of
a word are. -/
def wordsOf (lowFirst : Bool) : List UInt8 → List UInt32
  | a :: b :: c :: d :: rest =>
      (if lowFirst then wordOf [d, c, b, a] else wordOf [a, b, c, d]) :: wordsOf lowFirst rest
  | _ => []

/-- A text filled up to whole blocks of sixty-four octets: with a bit, zeros and
the number of its bits. -/
def filled (lowFirst : Bool) (octets : List UInt8) : List UInt8 :=
  let size := octets.length
  let bits := size * 8
  let length := wordOctets (bits / 4294967296).toUInt32 ++ wordOctets (bits % 4294967296).toUInt32
  octets ++ 128 :: List.replicate ((119 - size % 64) % 64) 0 ++
    if lowFirst then length.reverse else length

/-- The blocks of sixteen words each; at most `limit` of them. -/
def blocksOf : Nat → List UInt32 → List (Array UInt32)
  | 0, _ => []
  | _, [] => []
  | limit + 1, words => (words.take 16).toArray :: blocksOf limit (words.drop 16)

/-- The blocks of a text. -/
def blocks (lowFirst : Bool) (octets : List UInt8) : List (Array UInt32) :=
  let words := wordsOf lowFirst (filled lowFirst octets)
  blocksOf (words.length + 1) words

/-- The sum of two lists of words, one by one. -/
def addWords (a b : List UInt32) : List UInt32 :=
  List.zipWith (· + ·) a b

/-- A list of octets in hexadecimal digits. -/
def inDigits (octets : List UInt8) : NarrowText :=
  octets.flatMap fun octet =>
    [Numeral.digitOf false (octet.toNat / 16), Numeral.digitOf false (octet.toNat % 16)]

/-! ## Digests of words -/

/-- The constants of the rounds of MD5. -/
def md5Constants : Array UInt32 :=
  #[0xd76aa478, 0xe8c7b756, 0x242070db, 0xc1bdceee, 0xf57c0faf, 0x4787c62a, 0xa8304613, 0xfd469501,
    0x698098d8, 0x8b44f7af, 0xffff5bb1, 0x895cd7be, 0x6b901122, 0xfd987193, 0xa679438e, 0x49b40821,
    0xf61e2562, 0xc040b340, 0x265e5a51, 0xe9b6c7aa, 0xd62f105d, 0x02441453, 0xd8a1e681, 0xe7d3fbc8,
    0x21e1cde6, 0xc33707d6, 0xf4d50d87, 0x455a14ed, 0xa9e3e905, 0xfcefa3f8, 0x676f02d9, 0x8d2a4c8a,
    0xfffa3942, 0x8771f681, 0x6d9d6122, 0xfde5380c, 0xa4beea44, 0x4bdecfa9, 0xf6bb4b60, 0xbebfbc70,
    0x289b7ec6, 0xeaa127fa, 0xd4ef3085, 0x04881d05, 0xd9d4d039, 0xe6db99e5, 0x1fa27cf8, 0xc4ac5665,
    0xf4292244, 0x432aff97, 0xab9423a7, 0xfc93a039, 0x655b59c3, 0x8f0ccc92, 0xffeff47d, 0x85845dd1,
    0x6fa87e4f, 0xfe2ce6e0, 0xa3014314, 0x4e0811a1, 0xf7537e82, 0xbd3af235, 0x2ad7d2bb, 0xeb86d391]

/-- How far the bits of a round of MD5 are moved. -/
def md5Shift (round : Nat) : UInt32 :=
  ([[7, 12, 17, 22], [5, 9, 14, 20], [4, 11, 16, 23], [6, 10, 15, 21]].getD (round / 16) []).getD
    (round % 4) 0

/-- A round of MD5. -/
def md5Round (block : Array UInt32) (words : List UInt32) (round : Nat) : List UInt32 :=
  match words with
  | [a, b, c, d] =>
      let (mixed, place) :=
        if round < 16 then ((b &&& c) ||| (~~~b &&& d), round)
        else if round < 32 then ((d &&& b) ||| (~~~d &&& c), (5 * round + 1) % 16)
        else if round < 48 then (b ^^^ c ^^^ d, (3 * round + 5) % 16)
        else (c ^^^ (b ||| ~~~d), 7 * round % 16)
      let sum := a + mixed + md5Constants.getD round 0 + block.getD place 0
      [d, b + rotate sum (md5Shift round), b, c]
  | other => other

/-- The MD5 digest of a text. -/
def md5 (octets : List UInt8) : List UInt8 :=
  let words := (blocks true octets).foldl
    (fun words block => addWords words ((List.range 64).foldl (md5Round block) words))
    [0x67452301, 0xefcdab89, 0x98badcfe, 0x10325476]
  words.flatMap fun word => (wordOctets word).reverse

/-- A block with further words, each made of four before it. -/
def sha1Schedule (block : Array UInt32) : Array UInt32 :=
  (List.range 64).foldl
    (fun words index =>
      let at_ (back : Nat) : UInt32 := words.getD (index + 16 - back) 0
      words.push (rotate (at_ 3 ^^^ at_ 8 ^^^ at_ 14 ^^^ at_ 16) 1))
    block

/-- A round of SHA-1. -/
def sha1Round (schedule : Array UInt32) (words : List UInt32) (round : Nat) : List UInt32 :=
  match words with
  | [a, b, c, d, e] =>
      let (mixed, constant) : UInt32 × UInt32 :=
        if round < 20 then ((b &&& c) ||| (~~~b &&& d), 0x5a827999)
        else if round < 40 then (b ^^^ c ^^^ d, 0x6ed9eba1)
        else if round < 60 then ((b &&& c) ||| (b &&& d) ||| (c &&& d), 0x8f1bbcdc)
        else (b ^^^ c ^^^ d, 0xca62c1d6)
      [rotate a 5 + mixed + e + constant + schedule.getD round 0, a, rotate b 30, c, d]
  | other => other

/-- The SHA-1 digest of a text. -/
def sha1 (octets : List UInt8) : List UInt8 :=
  let words := (blocks false octets).foldl
    (fun words block =>
      addWords words ((List.range 80).foldl (sha1Round (sha1Schedule block)) words))
    [0x67452301, 0xefcdab89, 0x98badcfe, 0x10325476, 0xc3d2e1f0]
  words.flatMap wordOctets

/-- The constants of the rounds of SHA-256. -/
def sha256Constants : Array UInt32 :=
  #[0x428a2f98, 0x71374491, 0xb5c0fbcf, 0xe9b5dba5, 0x3956c25b, 0x59f111f1, 0x923f82a4, 0xab1c5ed5,
    0xd807aa98, 0x12835b01, 0x243185be, 0x550c7dc3, 0x72be5d74, 0x80deb1fe, 0x9bdc06a7, 0xc19bf174,
    0xe49b69c1, 0xefbe4786, 0x0fc19dc6, 0x240ca1cc, 0x2de92c6f, 0x4a7484aa, 0x5cb0a9dc, 0x76f988da,
    0x983e5152, 0xa831c66d, 0xb00327c8, 0xbf597fc7, 0xc6e00bf3, 0xd5a79147, 0x06ca6351, 0x14292967,
    0x27b70a85, 0x2e1b2138, 0x4d2c6dfc, 0x53380d13, 0x650a7354, 0x766a0abb, 0x81c2c92e, 0x92722c85,
    0xa2bfe8a1, 0xa81a664b, 0xc24b8b70, 0xc76c51a3, 0xd192e819, 0xd6990624, 0xf40e3585, 0x106aa070,
    0x19a4c116, 0x1e376c08, 0x2748774c, 0x34b0bcb5, 0x391c0cb3, 0x4ed8aa4a, 0x5b9cca4f, 0x682e6ff3,
    0x748f82ee, 0x78a5636f, 0x84c87814, 0x8cc70208, 0x90befffa, 0xa4506ceb, 0xbef9a3f7, 0xc67178f2]

/-- A block with further words, each made of four before it. -/
def sha256Schedule (block : Array UInt32) : Array UInt32 :=
  (List.range 48).foldl
    (fun words index =>
      let at_ (back : Nat) : UInt32 := words.getD (index + 16 - back) 0
      let low := rotate (at_ 15) 25 ^^^ rotate (at_ 15) 14 ^^^ (at_ 15 >>> 3)
      let high := rotate (at_ 2) 15 ^^^ rotate (at_ 2) 13 ^^^ (at_ 2 >>> 10)
      words.push (at_ 16 + low + at_ 7 + high))
    block

/-- A round of SHA-256. -/
def sha256Round (schedule : Array UInt32) (words : List UInt32) (round : Nat) : List UInt32 :=
  match words with
  | [a, b, c, d, e, f, g, h] =>
      let choice := (e &&& f) ^^^ (~~~e &&& g)
      let majority := (a &&& b) ^^^ (a &&& c) ^^^ (b &&& c)
      let first := h + (rotate e 26 ^^^ rotate e 21 ^^^ rotate e 7) + choice +
        sha256Constants.getD round 0 + schedule.getD round 0
      let second := (rotate a 30 ^^^ rotate a 19 ^^^ rotate a 10) + majority
      [first + second, a, b, c, d + first, e, f, g]
  | other => other

/-- The SHA-256 digest of a text. -/
def sha256 (octets : List UInt8) : List UInt8 :=
  let words := (blocks false octets).foldl
    (fun words block =>
      addWords words ((List.range 64).foldl (sha256Round (sha256Schedule block)) words))
    [0x6a09e667, 0xbb67ae85, 0x3c6ef372, 0xa54ff53a, 0x510e527f, 0x9b05688c, 0x1f83d9ab, 0x5be0cd19]
  words.flatMap wordOctets

/-! ## Remainders -/

/-- A remainder with an octet more. -/
def sumStep (sum : UInt32) (octet : UInt8) : UInt32 :=
  (List.range 8).foldl
    (fun sum _ => if sum &&& 0x80000000 = 0 then sum <<< 1 else (sum <<< 1) ^^^ 0x04c11db7)
    (sum ^^^ (octet.toUInt32 <<< 24))

/-- The octets of a number, the lowest one first; at most `limit` of them. -/
def lowOctets : Nat → Nat → List UInt8
  | 0, _ => []
  | limit + 1, value => if value = 0 then [] else value.toUInt8 :: lowOctets limit (value / 256)

/-- The remainder of a text and its length. -/
def sum (octets : List UInt8) : UInt32 :=
  ~~~((octets ++ lowOctets 8 octets.length).foldl sumStep 0)

end Digest

namespace Tools

/-! ## The tools -/

/-- A line for the digest of a file.  In front of a name in which something has
to be escaped stands a backslash. -/
def digestLine (digest name : NarrowText) : NarrowText :=
  let escaped := name.flatMap fun c =>
    if c = '\\' then ['\\', '\\'] else if c = '\n' then ['\\', 'n'] else [c]
  (if escaped = name then [] else ['\\']) ++ digest ++ ' ' :: ' ' :: escaped ++ ['\n']

/-- The digest and the name on a line that was written for a file. -/
def readDigestLine? (line : NarrowText) : Option (NarrowText × NarrowText) :=
  match line.dropWhile (· ≠ ' ') with
  | ' ' :: mark :: name =>
      if mark = ' ' ∨ mark = '*' then some (line.takeWhile (· ≠ ' '), name) else none
  | _ => none

/-- Check the digests that lines tell against those of the files, and count the
ones that differ and the files that cannot be read. -/
def checkDigests (digest : List UInt8 → List UInt8) (tool : NarrowText) (quiet silent : Bool) :
    List NarrowText → Work (Nat × Nat)
  | [] => return (0, 0)
  | line :: rest => do
      match readDigestLine? line with
      | none => checkDigests digest tool quiet silent rest
      | some (wanted, name) => do
          let (differs, lacks) : Nat × Nat ←
            match ← Work.readNamed name with
            | .error fault => do
                Work.complainAbout tool name fault
                if !silent then
                  Work.print tool (name ++ ": FAILED open or read\n".toList)
                pure (0, 1)
            | .ok text => do
                let found := Digest.inDigits (digest (NarrowText.toOctets text))
                let same := decide (found = wanted.map Char.toLower)
                if !silent && !(same && quiet) then
                  Work.print tool (name ++
                    (if same then ": OK\n" else ": FAILED\n").toList)
                pure (if same then 0 else 1, 0)
          let (others, missing) ← checkDigests digest tool quiet silent rest
          return (differs + others, lacks + missing)

/-- Warn about a number of files. -/
def warnOf (tool : NarrowText) (count : Nat) (one many : String) : Work Unit := do
  if count = 1 then Work.complain tool ("WARNING: 1 ".toList ++ one.toList)
  else if 1 < count then
    Work.complain tool ("WARNING: ".toList ++ Numeral.ofNat count ++ ' ' :: many.toList)

/-- Write a line for each of some files, and tell whether all of them could be
read. -/
def writeEach (tool : NarrowText) (line : NarrowText → List UInt8 → NarrowText) :
    List NarrowText → Work Bool
  | [] => return true
  | name :: rest => do
      let fine ←
        match ← Work.readNamed name with
        | .ok text => do
            Work.print tool (line name (NarrowText.toOctets text))
            pure true
        | .error fault => do
            Work.complainAbout tool name fault
            pure false
      return (← writeEach tool line rest) && fine

/-- Write the digests of texts, or check them. -/
def digests (digest : List UInt8 → List UInt8) : Tool := fun _ tool arguments => do
  let found ← optionsOf tool 1
    [option 'b' "binary", option 'c' "check", option 't' "text", option 'w' "warn", long "tag",
      long "quiet", long "status", long "strict", long "ignore-missing", option 'z' "zero"]
    true arguments
  let names := Work.orInput found.operands
  if found.has "c" then
    let (texts, fine) ← Work.readTexts tool names
    let lines := texts.flatMap fun entry => linesOf '\n' entry.2
    let (differs, lacks) ←
      checkDigests digest tool (found.has "quiet") (found.has "status") lines
    if !found.has "status" then
      warnOf tool lacks "listed file could not be read" "listed files could not be read"
      warnOf tool differs "computed checksum did NOT match" "computed checksums did NOT match"
    return Work.statusOf (fine && differs = 0 && lacks = 0)
  else
    return Work.statusOf (← writeEach tool
      (fun name octets => digestLine (Digest.inDigits (digest octets)) name) names)

/-- Write MD5 digests. -/
def md5sum : Tool := digests Digest.md5

/-- Write SHA-1 digests. -/
def sha1sum : Tool := digests Digest.sha1

/-- Write SHA-256 digests. -/
def sha256sum : Tool := digests Digest.sha256

/-- Write the remainders and the sizes of texts. -/
def cksum : Tool := fun _ tool arguments => do
  let found ← optionsOf tool 1 [] true arguments
  let line (name : NarrowText) (octets : List UInt8) : NarrowText :=
    let shown := if found.operands.isEmpty then [] else ' ' :: name
    Numeral.ofNat (Digest.sum octets).toNat ++ ' ' :: Numeral.ofNat octets.length ++ shown ++
      ['\n']
  return Work.statusOf (← writeEach tool line (Work.orInput found.operands))

end Tools
end SyntaxCensus
