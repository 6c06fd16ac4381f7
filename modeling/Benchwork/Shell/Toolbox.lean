/-
The tools of a machine by name.

Tools that start other programs, shells among them, have names here too, but what they do is part of the interpreter.
-/
import Benchwork.Shell.Tool.Bytes
import Benchwork.Shell.Tool.Columns
import Benchwork.Shell.Tool.Compare
import Benchwork.Shell.Tool.Digest
import Benchwork.Shell.Tool.Editor
import Benchwork.Shell.Tool.Expression
import Benchwork.Shell.Tool.Listing
import Benchwork.Shell.Tool.Machine
import Benchwork.Shell.Tool.Order
import Benchwork.Shell.Tool.Search

namespace Benchwork.Shell.Toolbox

/-- tools that start no other program -/
def simple : List (String × (List String → Tooling Nat)) :=
  [("[", Tool.bracket), ("arch", Tool.fixed "x86_64\n"), ("base32", Tool.base32), ("base64", Tool.base64), ("basename", Tool.basename), ("cat", Tool.cat),
   ("chmod", Tool.chmod), ("cksum", Tool.cksum), ("cmp", Tool.cmp), ("comm", Tool.comm), ("cp", Tool.cp), ("cut", Tool.cut),
   ("date", Tool.date), ("dd", Tool.dd), ("diff", Tool.diff), ("dirname", Tool.dirname), ("echo", Tool.echo), ("egrep", Tool.egrep),
   ("expr", Tool.expr), ("false", fun _ => pure 1), ("fgrep", Tool.fgrep), ("fold", Tool.fold), ("grep", Tool.grep),
   ("groups", Tool.fixed "root\n"), ("head", Tool.head), ("hostname", Tool.fixed "localhost\n"), ("id", Tool.userId),
   ("install", Tool.install), ("join", Tool.join), ("ln", Tool.ln), ("ls", Tool.ls), ("md5sum", Tool.md5sum), ("mkdir", Tool.mkdir), ("mktemp", Tool.mktemp),
   ("mv", Tool.mv), ("nl", Tool.nl), ("nproc", Tool.fixed "4\n"), ("od", Tool.od), ("paste", Tool.paste), ("printenv", Tool.printenv),
   ("printf", Tool.printf), ("pwd", Tool.pwd), ("readlink", Tool.readlink), ("realpath", Tool.realpath),
   ("rev", Tool.rev), ("rm", Tool.rm), ("rmdir", Tool.rmdir), ("sed", Tool.sed), ("seq", Tool.seq),
   ("sha1sum", Tool.sha1sum), ("sha224sum", Tool.sha224sum), ("sha256sum", Tool.sha256sum),
   ("sha384sum", Tool.sha384sum), ("sha512sum", Tool.sha512sum), ("sleep", Tool.sleep), ("sort", Tool.sort), ("split", Tool.split), ("stat", Tool.stat), ("sum", Tool.sum), ("sync", fun _ => pure 0), ("tac", Tool.tac),
   ("tail", Tool.tail), ("tee", Tool.tee), ("test", Tool.test), ("touch", Tool.touch), ("tr", Tool.tr),
   ("true", fun _ => pure 0), ("truncate", Tool.truncate), ("tty", Tool.tty), ("uname", Tool.uname), ("uniq", Tool.uniq), ("unlink", Tool.unlink),
   ("wc", Tool.wc), ("whoami", Tool.whoami), ("yes", Tool.yes)]

/-- tools that start other programs -/
def starters : List String :=
  ["bash", "dash", "env", "find", "kill", "nice", "nohup", "rbash", "setsid", "sh", "stdbuf", "timeout", "which", "xargs"]

def find? (name : String) : Option (List String → Tooling Nat) := (simple.find? (·.1 = name)).map (·.2)

/-- the names of all tools -/
def names : List String := (simple.map (·.1) ++ starters).mergeSort fun a b => decide (a ≤ b)

end Benchwork.Shell.Toolbox
