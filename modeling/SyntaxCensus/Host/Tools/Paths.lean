import SyntaxCensus.Host.Tools.Options

/-!
# Paths

Tools that take paths apart, and that tell where they lead.

Main definitions:

- `Tools.basename`, `Tools.dirname`: the last name of a path, and what is
  before it.
- `Tools.readlink`, `Tools.realpath`: where links and paths lead.
- `Tools.pwd`: the working directory.
-/

namespace SyntaxCensus
namespace Tools

/-! ## Parts of paths -/

/-- A path without the slashes at its end. -/
def withoutEndSlashes (path : NarrowText) : NarrowText :=
  (path.reverse.dropWhile (· = '/')).reverse

/-- The last name of a path. -/
def lastName (path : NarrowText) : NarrowText :=
  let body := withoutEndSlashes path
  if body.isEmpty then path.take 1
  else (body.reverse.takeWhile (· ≠ '/')).reverse

/-- What stands before the last name of a path. -/
def beforeLastName (path : NarrowText) : NarrowText :=
  let body := withoutEndSlashes path
  let front := (body.reverse.dropWhile (· ≠ '/')).reverse
  if body.isEmpty then (if path.isEmpty then ['.'] else ['/'])
  else if front.isEmpty then ['.']
  else
    let directory := withoutEndSlashes front
    if directory.isEmpty then ['/'] else directory

/-- A name without a text at its end, unless that is the whole name. -/
def withoutSuffix (suffix name : NarrowText) : NarrowText :=
  if suffix.isSuffixOf name && decide (suffix.length < name.length) then
    name.take (name.length - suffix.length)
  else name

/-- The mark at the end of each text. -/
def endMark (found : Found) : Char :=
  if found.has "z" then Char.ofNat 0 else '\n'

/-- Write the last names of paths. -/
def basename : Tool := fun _ tool arguments => do
  let found ← optionsOf tool 1
    [option 'a' "multiple", valued 's' "suffix", option 'z' "zero"] false arguments
  let several := found.has "a" || found.has "s"
  let name (suffix path : NarrowText) : NarrowText :=
    withoutSuffix suffix (lastName path) ++ [endMark found]
  match found.operands with
  | [] => missingOperand tool none
  | paths@(first :: rest) => do
      if several then
        Work.print tool (paths.flatMap (name ((found.value? "s").getD [])))
      else
        match rest with
        | [] => Work.print tool (name [] first)
        | [suffix] => Work.print tool (name suffix first)
        | _ :: extra :: _ => extraOperand tool extra
      return 0

/-- Write what stands before the last names of paths. -/
def dirname : Tool := fun _ tool arguments => do
  let found ← optionsOf tool 1 [option 'z' "zero"] false arguments
  if found.operands.isEmpty then missingOperand tool none
  Work.print tool (found.operands.flatMap fun path => beforeLastName path ++ [endMark found])
  return 0

/-! ## Where paths lead -/

/-- A location as a path from the root. -/
def pathOf (location : List String) : NarrowText :=
  NarrowText.ofString ("/" ++ Path.ofPieces location)

/-- How much of a path has to be there. -/
inductive Presence where
  | all
  | allButLast
  | nothing
  deriving DecidableEq, Repr

/-- A location with names put behind it, some of which lead back. -/
def follow (location : List String) (names : List String) : List String :=
  names.foldl
    (fun place name =>
      if name = "." then place else if name = ".." then place.dropLast else place ++ [name])
    location

/-- The location that a path leads to when nothing has to be there: as much of
it as is there is walked through. -/
def looseLocation (fs : FileSystem) (path : String) : Nat → List String
  | 0 => follow (FileSystem.origin fs.working path) (Path.names path)
  | count + 1 =>
      let names := Path.names path
      let front := names.take (count + 1)
      let start := if Path.isAbsolute path then "/" else "./"
      match fs.locate (start ++ Path.ofPieces front) with
      | .ok (.present location _) => follow location (names.drop (count + 1))
      | .ok (.free directory name) => follow (directory ++ [name]) (names.drop (count + 1))
      | .error _ => looseLocation fs path count

/-- The location that a path leads to. -/
def locationOf (fs : FileSystem) (presence : Presence) (path : NarrowText) :
    Except SystemFault (List String) :=
  let path := NarrowText.toString path
  match presence, fs.locate path with
  | _, .ok (.present location _) => .ok location
  | .allButLast, .ok (.free directory name) => .ok (directory ++ [name])
  | .nothing, _ =>
      if path.isEmpty then .error .notFound
      else .ok (looseLocation fs path (Path.names path).length)
  | .all, .ok (.free _ _) => .error .notFound
  | _, .error fault => .error fault

/-- How much has to be there, as options say. -/
def presenceOf (found : Found) (otherwise : Presence) : Presence :=
  match found.lastOf ["e", "f", "m"] with
  | some "e" => .all
  | some "f" => .allButLast
  | some "m" => .nothing
  | _ => otherwise

/-- Write where links lead. -/
def readlink : Tool := fun _ tool arguments => do
  let found ← optionsOf tool 1
    [option 'e' "canonicalize-existing", option 'f' "canonicalize",
      option 'm' "canonicalize-missing", option 'n' "no-newline", option 'q' "quiet",
      option 's' "silent", option 'v' "verbose", option 'z' "zero"] true arguments
  if found.operands.isEmpty then missingOperand tool none
  let resolves := (found.lastOf ["e", "f", "m"]).isSome
  let ending := if found.has "n" && found.operands.length = 1 then [] else [endMark found]
  let mut fine := true
  for path in found.operands do
    let fs := (← get).files
    let target : Except SystemFault NarrowText :=
      if resolves then (locationOf fs (presenceOf found .all) path).map pathOf
      else
        match fs.findSelf (NarrowText.toString path) with
        | .ok (_, .link target) => .ok (NarrowText.ofString target)
        | .ok _ => .error .invalid
        | .error fault => .error fault
    match target with
    | .ok target => Work.print tool (target ++ ending)
    | .error fault => do
        fine := false
        if found.has "v" then Work.complainAbout tool path fault
  return Work.statusOf fine

/-- The second of two locations as a path that begins at the first one. -/
def relativePath : List String → List String → NarrowText
  | a :: as, b :: bs => if a = b then relativePath as bs else relative (a :: as) (b :: bs)
  | as, bs => relative as bs
where
  /-- Up from one place, and down to another one. -/
  relative (up down : List String) : NarrowText :=
    match up.map (fun _ => "..") ++ down with
    | [] => ['.']
    | names => NarrowText.ofString (Path.ofPieces names)

/-- Write where paths lead. -/
def realpath : Tool := fun _ tool arguments => do
  let found ← optionsOf tool 1
    [option 'e' "canonicalize-existing", option 'm' "canonicalize-missing", option 'L' "logical",
      option 'P' "physical", option 'q' "quiet", option 's' "no-symlinks", option 'z' "zero",
      longValued "relative-to", longValued "relative-base"] true arguments
  if found.operands.isEmpty then missingOperand tool none
  let base ←
    match found.value? "relative-to" with
    | none => pure none
    | some path =>
        match locationOf (← get).files (presenceOf found .allButLast) path with
        | .ok location => pure (some location)
        | .error fault => do
            Work.complainAbout tool path fault
            Work.exit 1
  let mut fine := true
  for path in found.operands do
    let fs := (← get).files
    let location : Except SystemFault (List String) :=
      if found.has "s" then
        let path := NarrowText.toString path
        .ok (follow (FileSystem.origin fs.working path) (Path.names path))
      else locationOf fs (presenceOf found .allButLast) path
    match location with
    | .ok location =>
        let shown :=
          match base with
          | none => pathOf location
          | some base => relativePath base location
        Work.print tool (shown ++ [endMark found])
    | .error fault => do
        fine := false
        if !found.has "q" then Work.complainAbout tool path fault
  return Work.statusOf fine

/-- Write the working directory. -/
def pwd : Tool := fun _ tool arguments => do
  let found ← optionsOf tool 1 [option 'L' "logical", option 'P' "physical"] true arguments
  if !found.operands.isEmpty then Work.complain tool "ignoring non-option arguments".toList
  Work.print tool (pathOf (← get).files.working ++ ['\n'])
  return 0

end Tools
end SyntaxCensus
