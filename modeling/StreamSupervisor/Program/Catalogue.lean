import StreamSupervisor.Machine.Execution
import StreamSupervisor.Program.Manners
import StreamSupervisor.Shell.Invocation
import StreamSupervisor.Tool.Amounts
import StreamSupervisor.Tool.Batches
import StreamSupervisor.Tool.Characters
import StreamSupervisor.Tool.Columns
import StreamSupervisor.Tool.Counting
import StreamSupervisor.Tool.Digest
import StreamSupervisor.Tool.Dump
import StreamSupervisor.Tool.Edit
import StreamSupervisor.Tool.Encoding
import StreamSupervisor.Tool.Facts
import StreamSupervisor.Tool.Find
import StreamSupervisor.Tool.Listing
import StreamSupervisor.Tool.Numbers
import StreamSupervisor.Tool.Orders
import StreamSupervisor.Tool.Pages
import StreamSupervisor.Tool.Records.Run
import StreamSupervisor.Tool.Search
import StreamSupervisor.Tool.Sort
import StreamSupervisor.Tool.Starters
import StreamSupervisor.Tool.Surveys
import StreamSupervisor.Tool.Transfer
import StreamSupervisor.Tool.Wrappers

/-! # The catalogue of programs

What runs under the names of the installed programs.
-/

namespace StreamSupervisor

open Machine Tool

namespace Catalogue

def tools : List (String × (List String → Chore Nat)) :=
  [("cat", concatenate), ("yes", yes), ("tee", tee), ("head", head), ("tail", tail),
    ("sort", sort), ("uniq", uniq), ("wc", wordCount), ("tr", translate), ("cut", cut),
    ("paste", paste), ("base64", base64), ("expr", expr), ("seq", seq), ("factor", factor),
    ("basename", basename), ("dirname", dirname), ("stat", stat),
    ("readlink", readLink), ("realpath", realPath), ("rm", remove), ("rmdir", Tool.removeDirectory),
    ("mkdir", makeDirectory), ("touch", touchFiles), ("chmod", changeMode),
    ("link", linkFile), ("unlink", unlinkFile), ("mkfifo", makeQueues), ("mknod", makeSpecial),
    ("truncate", truncate),
    ("cmp", compareFiles), ("diff", difference),
    ("true", succeed), ("false", failAlways), ("echo", echoWords),
    ("printf", formatText), ("test", judgeCondition false), ("[", judgeCondition true),
    ("sleep", pause), ("uname", systemName), ("hostname", hostName), ("id", identify),
    ("groups", showGroups), ("getent", lookUp), ("tty", showTerminal),
    ("kill", killProcesses), ("dd", copyRaw),
    ("arch", factLine "" [] 1 false "x86_64"), ("whoami", factLine "" [] 1 false "user"),
    ("hostid", factLine "" [] 1 false "00000000"),
    ("nproc", countProcessors), ("logname", loginName), ("sync", flushFiles),
    ("tac", reverseLines), ("rev", reverseCharacters), ("shuf", shuffle), ("nl", numberLines),
    ("fold", wrapLines), ("fmt", formatParagraphs), ("expand", expandTabs),
    ("unexpand", unexpandTabs), ("pr", paginate), ("comm", compareSorted), ("join", joinFields),
    ("tsort", sortTopologically), ("split", splitInput), ("od", dumpBytes),
    ("base32", base32), ("basenc", encodeAs), ("csplit", splitByContext),
    ("numfmt", formatAmounts), ("cksum", checkSum), ("sum", oldSum), ("df", showSpace),
    ("du", measureFiles), ("mountpoint", judgeMount), ("pgrep", listFound),
    ("pkill", signalFound), ("pidof", identifyRunning), ("ps", listProcesses),
    ("free", showMemory), ("uptime", showUptime), ("vmstat", showActivity),
    ("top", watchProcesses), ("who", showVisitors), ("users", showUsers), ("last", showLogins),
    ("getconf", showSetting), ("locale", showLocale), ("ldd", showLibraries),
    ("namei", showPathParts), ("findmnt", showMounts)] ++ digestPrograms

def starters : List (String × (List String → List String → Chore Nat)) :=
  [("grep", grep []), ("egrep", grep [⟨"E", none⟩]), ("fgrep", grep [⟨"F", none⟩]),
    ("rgrep", grep [⟨"r", none⟩]), ("cp", copyFiles), ("mv", move), ("ln", makeLinks), ("install", installFiles),
    ("mktemp", makeTemporary), ("env", runInEnvironment), ("nice", runNicely), ("nohup", runWithoutHangup),
    ("stdbuf", runBuffered), ("setsid", runInSession), ("timeout", runLimited),
    ("xargs", runForArguments), ("find", find),
    ("ionice", runRanked), ("taskset", runOnProcessors), ("chrt", runScheduled),
    ("setarch", runAsMachine "setarch"), ("linux32", runAsMachine "linux32"),
    ("linux64", runAsMachine "linux64"), ("i386", runAsMachine "i386"),
    ("x86_64", runAsMachine "x86_64"), ("nsenter", runInNamespace), ("unshare", runUnshared),
    ("prlimit", runWithLimits), ("setpriv", runPrivileged), ("flock", runLocked),
    ("sed", edit), ("ls", list), ("dir", listIn [⟨"C", none⟩] [⟨"b", none⟩]),
    ("vdir", listIn [⟨"l", none⟩] [⟨"b", none⟩]), ("date", showDate), ("pwd", fun args environment => showDirectory environment args),
    ("printenv", fun args environment => showVariables environment args),
    ("which.debianutils", fun args environment => findPrograms environment args)]

/-- The line with which a program tells its version. -/
def release (name : String) : String :=
  let others := [("grep", "grep (GNU grep) 3.8"), ("egrep", "grep (GNU grep) 3.8"),
    ("fgrep", "grep (GNU grep) 3.8"), ("rgrep", "grep (GNU grep) 3.8"),
    ("sed", "sed (GNU sed) 4.9"), ("find", "find (GNU findutils) 4.9.0"),
    ("xargs", "xargs (GNU findutils) 4.9.0"), ("diff", "diff (GNU diffutils) 3.8"),
    ("hostname", "hostname 3.23")]
  let fromLinux := ["rev", "kill", "nsenter", "unshare", "prlimit", "setpriv", "flock", "ionice",
    "taskset", "chrt", "setarch", "setsid", "getopt", "namei", "findmnt", "mountpoint", "last"]
  let fromProcesses := ["ps", "pgrep", "pkill", "pidof", "free", "uptime", "vmstat", "top"]
  match others.lookup name with
  | some line => line
  | none =>
    if fromLinux.contains name then name ++ " from util-linux 2.38.1"
    else if fromProcesses.contains name then name ++ " from procps-ng 4.0.2"
    else name ++ " (GNU coreutils) 9.1"

def programs : Programs := fun name arguments environment =>
  match name with
  | "dash" => Shell.plain arguments environment
  | "bash" => Shell.rich arguments environment
  | "mawk" =>
    let title := baseName (arguments.headD "awk")
    Doing.begin {} (processRecords title (arguments.drop 1) environment)
  | name =>
    let args := arguments.drop 1
    let desk : Desk := { title := name, release := release name }
    Doing.begin desk (match tools.lookup name, starters.lookup name with
      | some tool, _ => tool args
      | none, some starter => starter args environment
      | none, none => (Manner.ofName name).answer args)

end Catalogue

end StreamSupervisor
