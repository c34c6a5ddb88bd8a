import ServerKeeper.Shell.Start
import ServerKeeper.Tool.Calculating
import ServerKeeper.Tool.Comparing
import ServerKeeper.Tool.Conveying
import ServerKeeper.Tool.Copying
import ServerKeeper.Tool.Dumping
import ServerKeeper.Tool.Encoding
import ServerKeeper.Tool.Fields
import ServerKeeper.Tool.Finding
import ServerKeeper.Tool.Following
import ServerKeeper.Tool.Gathering
import ServerKeeper.Tool.Inspecting
import ServerKeeper.Tool.Printing
import ServerKeeper.Tool.Records
import ServerKeeper.Tool.Repeats
import ServerKeeper.Tool.Searching
import ServerKeeper.Tool.Sets
import ServerKeeper.Tool.Sorting
import ServerKeeper.Tool.StreamEditor
import ServerKeeper.Tool.Surroundings
import ServerKeeper.Tool.Testing
import ServerKeeper.Tool.Viewing

namespace ServerKeeper.Tool

open Host

def tools : List Utility :=
  [Viewing.cat, Viewing.head, Following.tail, Viewing.wc, Viewing.tac, Viewing.rev, Viewing.tee,
   Viewing.nl,
   Printing.echo, Printing.printf, Printing.yes, Printing.succeed, Printing.doNotSucceed,
   Printing.basename, Printing.dirname,
   Calculating.seq, Calculating.expr, Calculating.factor,
   Starting.env, Starting.printenv, Starting.nice, Starting.nohup, Starting.setsid,
   Starting.stdbuf, Starting.sleep, Starting.timeout,
   Surroundings.date, Surroundings.uname, Surroundings.whoami, Surroundings.arch,
   Surroundings.groups, Surroundings.id, Surroundings.pwd, Surroundings.tty,
   Surroundings.hostname, Surroundings.logname,
   Surroundings.users, Surroundings.who, Surroundings.nproc, Surroundings.sync, Surroundings.which,
   Testing.test, Testing.bracket,
   Canonical.readlink, Canonical.realpath,
   Making.mkdir, Making.rmdir, Making.rm, Making.unlink, Making.chmod,
   Making.touch, Making.mkfifo, Making.mktemp, Making.truncate,
   Copying.cp, Copying.mv, Copying.ln, Copying.link, Copying.install,
   Listing.ls, Listing.dir, Listing.vdir, Inspecting.stat,
   Sets.tr,
   Fields.cut, Fields.paste, Repeats.uniq, Sorting.sort,
   Searching.grep, Searching.egrep, Searching.fgrep,
   StreamEditor.sed, Finding.find, Gathering.xargs,
   Encoding.base64, Encoding.base32, Dumping.od, Comparing.cmp, Conveying.dd,
   Records.awk, { Records.awk with name := "mawk" }, { Records.awk with name := "nawk" }]

def missing : Utility where
  name := ""
  work _ := Job.fail "no such tool"

def launch (tool : String) (arguments : List String) (environment : List (String × String)) :
    Process :=
  if tool == "sh" || tool == "dash" then Shell.process arguments environment
  else
    let name := arguments.headD tool
    match tools.find? (·.name == tool) with
    | some t => t.process name (arguments.drop 1) environment
    | none => missing.process name [] environment

end ServerKeeper.Tool
