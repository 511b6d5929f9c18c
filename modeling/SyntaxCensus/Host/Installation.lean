import SyntaxCensus.Host.Tools.Arguments
import SyntaxCensus.Host.Tools.Blocks
import SyntaxCensus.Host.Tools.Calculating
import SyntaxCensus.Host.Tools.Calendar
import SyntaxCensus.Host.Tools.Columns
import SyntaxCensus.Host.Tools.Comparing
import SyntaxCensus.Host.Tools.Copying
import SyntaxCensus.Host.Tools.Digests
import SyntaxCensus.Host.Tools.Editing.Invocation
import SyntaxCensus.Host.Tools.Listing
import SyntaxCensus.Host.Tools.Moving
import SyntaxCensus.Host.Tools.Ordering
import SyntaxCensus.Host.Tools.Printing
import SyntaxCensus.Host.Tools.Records.Invocation
import SyntaxCensus.Host.Tools.Searching
import SyntaxCensus.Host.Tools.Seeking
import SyntaxCensus.Host.Tools.Testing

/-!
# What is installed

Every system has the same tools, whose files can be started, and the same
devices and directories.

Main definitions:

- `Installation.tools`: the tools by their names.
- `Installation.tree`: the files and directories of the system.
-/

namespace SyntaxCensus
namespace Installation

/-- The tools that copy text, change it, or put it in order. -/
def textTools : List (String × Tool) :=
  [("awk", Tools.awk), ("base64", Tools.base64), ("cat", Tools.cat), ("cksum", Tools.cksum),
    ("cmp", Tools.cmp), ("comm", Tools.comm), ("cut", Tools.cut), ("dd", Tools.dd),
    ("diff", Tools.diff), ("egrep", Tools.egrep), ("expand", Tools.expand),
    ("fgrep", Tools.fgrep), ("fold", Tools.fold), ("grep", Tools.grep), ("head", Tools.head),
    ("mawk", Tools.awk), ("md5sum", Tools.md5sum), ("nl", Tools.nl), ("od", Tools.od),
    ("paste", Tools.paste), ("rev", Tools.rev), ("sed", Tools.sed), ("sha1sum", Tools.sha1sum),
    ("sha256sum", Tools.sha256sum), ("sort", Tools.sort), ("tac", Tools.tac),
    ("tail", Tools.tail), ("tee", Tools.tee), ("tr", Tools.tr), ("uniq", Tools.uniq),
    ("wc", Tools.wc)]

/-- The tools that write what their arguments say. -/
def printingTools : List (String × Tool) :=
  [("[", Tools.bracket), ("basename", Tools.basename), ("dirname", Tools.dirname),
    ("echo", Tools.echo), ("expr", Tools.expr), ("false", Tools.giveUp), ("printf", Tools.printf),
    ("seq", Tools.seq), ("test", Tools.test), ("true", Tools.succeed), ("yes", Tools.yes)]

/-- The tools that work on files and directories. -/
def fileTools : List (String × Tool) :=
  [("chmod", Tools.chmod), ("cp", Tools.cp), ("dir", Tools.ls), ("du", Tools.du),
    ("find", Tools.find), ("install", Tools.install), ("ln", Tools.ln), ("ls", Tools.ls),
    ("mkdir", Tools.mkdir),
    ("mktemp", Tools.mktemp), ("mv", Tools.mv), ("pwd", Tools.pwd), ("readlink", Tools.readlink),
    ("realpath", Tools.realpath), ("rm", Tools.rm), ("rmdir", Tools.rmdir), ("stat", Tools.stat),
    ("sync", Tools.succeed), ("touch", Tools.touch), ("truncate", Tools.truncate),
    ("unlink", Tools.unlink)]

/-- The tools that start programs or tell about what is around them. -/
def surroundingTools : List (String × Tool) :=
  [("date", Tools.date), ("env", Tools.env), ("hostname", Tools.hostname),
    ("id", Tools.identify), ("nice", Tools.nice), ("nohup", Tools.nohup),
    ("nproc", Tools.processors), ("printenv", Tools.printenv), ("sleep", Tools.sleep),
    ("timeout", Tools.timeout),
    ("tty", Tools.tty), ("uname", Tools.uname), ("which", Tools.which), ("whoami", Tools.whoami),
    ("xargs", Tools.xargs)]

/-- The tools by their names. -/
def tools : List (String × Tool) :=
  textTools ++ printingTools ++ fileTools ++ surroundingTools

/-- The shells by their names, and whether they know the extended language. -/
def shells : List (String × Bool) :=
  [("dash", false), ("bash", true)]

/-- The tool with a name. -/
def tool? (name : String) : Option Tool :=
  (tools.find? fun entry => entry.1 = name).map Prod.snd

/-! ## Files -/

/-- What the files of programs begin with that are no scripts. -/
def programMark : NarrowText := Char.ofNat 0x7F :: "ELF".toList

/-- The content of the file of a program. -/
def programContent (name : String) : List UInt8 :=
  NarrowText.toOctets (programMark ++ name.toList)

/-- The program whose file has a content. -/
def programName? (content : NarrowText) : Option String :=
  if programMark.isPrefixOf content then
    some (String.ofList (content.drop programMark.length))
  else none

/-- The directories that every system has. -/
def directories : List (List String) :=
  [["dev"], ["etc"], ["home"], ["opt"], ["proc", "self", "fd"], ["root"], ["tmp"], ["usr", "bin"],
    ["usr", "lib"], ["usr", "local", "bin"], ["usr", "sbin"], ["var", "tmp"]]

/-- The links that every system has. -/
def links : List (List String × String) :=
  [(["usr", "bin", "sh"], "dash"), (["bin"], "usr/bin"), (["sbin"], "usr/sbin"),
    (["lib"], "usr/lib"),
    (["dev", "fd"], "/proc/self/fd"), (["dev", "stdin"], "/proc/self/fd/0"),
    (["dev", "stdout"], "/proc/self/fd/1"), (["dev", "stderr"], "/proc/self/fd/2")]

/-- The files that stand for devices and for the descriptors of a process. -/
def devices : List (List String) :=
  (["null", "zero", "full", "tty", "random", "urandom"].map fun name => ["dev", name]) ++
    (["0", "1", "2", "3", "4", "5", "6", "7", "8", "9", "60", "61", "62", "63"].map fun name =>
      ["proc", "self", "fd", name])

/-- The files and directories of the system. -/
def tree : Entry :=
  let root := directories.foldl (fun tree place => tree.put place (.directory []))
    (Entry.directory [])
  let root := devices.foldl (fun tree place => tree.put place (.file [] false)) root
  let root := links.foldl (fun tree link => tree.put link.1 (.link link.2)) root
  (shells.map Prod.fst ++ tools.map Prod.fst).foldl
    (fun tree name => tree.put ["usr", "bin", name] (.file (programContent name) true)) root

end Installation
end SyntaxCensus
