import SyntaxCensus.Json.Printer

/-!
# Compiler toolchains

Two generations of compilers are supported.  A current compiler takes a
request as a document and answers the tree of a file under the file's name; a
legacy compiler takes the bare source and answers the tree of its only source
under the empty name.

Main definitions:

- `Toolchain.request`: what a compiler is given for a file.
- `Toolchain.tree?`: where its answer holds the syntax tree.
-/

namespace SyntaxCensus

/-- A generation of compilers. -/
inductive Toolchain where
  | current
  | legacy
  deriving DecidableEq, Repr

namespace Toolchain

/-- The order in which toolchains are tried. -/
def priority : List Toolchain := [.current, .legacy]

/-- The name of a toolchain in messages. -/
def name : Toolchain → String
  | .current => "current"
  | .legacy => "legacy"

/-- The member of a node that names its kind. -/
def marker : Toolchain → String
  | .current => "nodeType"
  | .legacy => "name"

/-- The language that a request declares. -/
def language : String := "Solidity"

/-- The part of a request that asks for the tree of every file. -/
def outputSelection : Json :=
  .object [("*", .object [("", .array [.string "ast"]), ("*", .array [.string "*"])])]

/-- The request for one file as a document. -/
def requestJson (file source : String) : Json :=
  .object
    [("language", .string language),
      ("settings", .object [("outputSelection", outputSelection)]),
      ("sources", .object [(file, .object [("content", .string source)])])]

/-- What a compiler is given for a file. -/
def request (toolchain : Toolchain) (file source : String) : String :=
  match toolchain with
  | .current => (requestJson file source).compact
  | .legacy => source

/-- The key under which an answer holds the results for a file. -/
def sourceKey (toolchain : Toolchain) (file : String) : String :=
  match toolchain with
  | .current => file
  | .legacy => ""

/-- The member of the results that holds the tree. -/
def treeKey : Toolchain → String
  | .current => "ast"
  | .legacy => "AST"

/-- The syntax tree of a file in a compiler's answer.  A tree of `null` is
none. -/
def tree? (toolchain : Toolchain) (file : String) (answer : Json) : Option Json :=
  match (answer.member? "sources").bind (·.member? (toolchain.sourceKey file)) with
  | none => none
  | some results =>
      match results.member? toolchain.treeKey with
      | none | some .null => none
      | some tree => some tree

end Toolchain
end SyntaxCensus
