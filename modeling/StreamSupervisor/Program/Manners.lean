import StreamSupervisor.Tool.Options

/-! # Manners

How the programs answer that need more of a machine than there is: administrators' tools,
tools for disks, terminals and accounts. What they say is settled by whether they are given
options they do not know, operands they cannot find, or nothing at all.
-/

namespace StreamSupervisor

open Machine Tool

/-- The exit codes of a program that does no work. -/
structure Manner where
  bare : Nat
  wrong : Nat
  other : Nat
  /-- What it shows when asked: help (H, h) or its version (v, V), by long names or letters. -/
  shown : String

namespace Manner

def shows (m : Manner) (argument : String) : Bool :=
  let knows (c : Char) : Bool := m.shown.toList.contains c
  argument == "--help" && knows 'H' || argument == "--version" && knows 'v' ||
    argument == "-h" && knows 'h' || argument == "-V" && knows 'V'

def answer (m : Manner) (args : List String) : Chore Nat := do
  match args with
  | [] => pure m.bare
  | first :: _ =>
    if m.shows first then do
      say "usage\n"
      finish 0
    else if args.any fun a => a.startsWith "-" && 1 < a.length && a != "--" then do
      warn "invalid option"
      pure m.wrong
    else pure m.other

def table : List (List String × Manner) :=
  [
    (["addpart", "choom", "chrt", "clear_console", "delpart", "dmesg", "dpkg-maintscript-helper",
      "fallocate", "ipcmk", "ischroot", "lastb", "mountpoint", "partx", "pmap", "pwdx",
      "rename.ul", "renice", "resizepart", "run-parts", "scriptlive", "scriptreplay", "setarch",
      "slabtop", "su", "taskset", "tload", "top", "umount", "wdctl", "zcat", "blkdiscard",
      "blkzone", "chcpu", "chmem", "fsfreeze", "fstrim", "ldattach", "mkfs", "mkfs.bfs", "mkswap",
      "pivot_root", "readprofile", "rtcwake", "runuser", "service", "sulogin", "swaplabel",
      "switch_root", "wipefs", "killall5", "skill", "snice", "pkill"], ⟨1, 1, 1, "HvVh"⟩),
    (["apt-key", "chattr", "debconf-copydb", "debconf-escape", "login", "sg", "add-shell",
      "badblocks", "dpkg-reconfigure", "e2freefrag", "e2image", "e2label", "e2scrub",
      "e2scrub_all", "e2undo", "e4defrag", "installkernel", "nologin", "pam_extrausers_chkpwd",
      "pam_extrausers_update", "remove-shell", "resize2fs", "tune2fs", "unix_chkpwd",
      "unix_update", "update-rc.d"], ⟨1, 1, 1, ""⟩),
    (["b2sum", "base32", "cksum", "expand", "find", "fmt", "fold", "md5sum", "nl", "pr", "ptx",
      "sha1sum", "sha224sum", "sha256sum", "sha384sum", "sha512sum", "shuf", "split", "sum",
      "tac", "tsort", "unexpand", "zic"], ⟨0, 1, 1, "Hv"⟩),
    (["basenc", "bashbug", "chcon", "chgrp", "chown", "comm", "csplit", "dircolors", "install",
      "join", "ldd", "link", "mkfifo", "mknod", "setterm", "shred", "stty", "tzselect", "unlink",
      "zforce", "znew", "agetty"], ⟨1, 1, 1, "Hv"⟩),
    (["deb-systemd-helper", "findmnt", "free", "gzip", "ipcrm", "lscpu", "lslogins", "lsmem",
      "lsns", "mount", "rev", "script", "uptime", "vmstat", "ctrlaltdel", "losetup", "zramctl"],
      ⟨0, 1, 1, "HvVh"⟩),
    (["diff3", "dpkg", "dpkg-deb", "dpkg-divert", "dpkg-query", "dpkg-split", "dpkg-statoverride",
      "dpkg-trigger", "getconf", "sdiff", "update-alternatives", "zcmp", "zdiff"], ⟨2, 2, 2,
      "Hv"⟩),
    (["ipcs", "last", "logger", "lsipc", "lslocks", "mcookie", "more", "uclampset", "utmpdump",
      "w", "wall"], ⟨0, 1, 0, "HvVh"⟩),
    (["captoinfo", "clear", "infocmp", "infotocap", "tabs", "tic", "mke2fs", "mkfs.ext2",
      "mkfs.ext3", "mkfs.ext4"], ⟨1, 1, 1, "V"⟩),
    (["i386", "ionice", "linux32", "linux64", "nsenter", "prlimit", "unshare", "x86_64"], ⟨0, 1,
      126, "HvVh"⟩),
    (["apt", "apt-cache", "apt-cdrom", "apt-config", "apt-get", "apt-mark"], ⟨1, 100, 100, "Hvh"⟩),
    (["grpconv", "grpunconv", "pwconv", "pwunconv", "vigr", "vipw"], ⟨5, 2, 2, "Hh"⟩),
    (["zless", "e4crypt", "pam_namespace_helper", "shadowconfig"], ⟨0, 0, 0, "HvVh"⟩),
    (["tempfile", "users", "who", "zmore"], ⟨0, 1, 0, "Hv"⟩),
    (["hardlink", "namei", "whereis", "blockdev"], ⟨1, 1, 0, "HvVh"⟩),
    (["pldd", "iconvconfig", "ldconfig", "ldconfig.real"], ⟨1, 64, 1, "HvV"⟩),
    (["e2fsck", "fsck.ext2", "fsck.ext3", "fsck.ext4"], ⟨16, 16, 8, "V"⟩),
    (["debconf-set-selections", "lsattr", "debugfs"], ⟨0, 1, 0, "V"⟩),
    (["iconv", "locale", "rmt-tar"], ⟨0, 64, 1, "HvV"⟩),
    (["pidof", "cpgr", "cppw"], ⟨1, 1, 1, "h"⟩),
    (["zegrep", "zfgrep", "zgrep"], ⟨2, 2, 1, "HvV"⟩),
    (["groupdel", "groupmod", "userdel"], ⟨2, 2, 6, "Hh"⟩),
    (["fsck.cramfs", "fsck.minix", "mkfs.minix"], ⟨16, 16, 8, "HvVh"⟩),
    (["df", "pinky"], ⟨0, 1, 0, "Hvh"⟩),
    (["newgrp", "mklost+found"], ⟨0, 1, 1, ""⟩),
    (["du", "od"], ⟨0, 1, 1, "Hvh"⟩),
    (["dir", "vdir"], ⟨0, 2, 0, "Hvh"⟩),
    (["debconf-show", "dpkg-preconfigure"], ⟨1, 1, 0, ""⟩),
    (["dpkg-realpath", "pathchk"], ⟨1, 1, 0, "Hv"⟩),
    (["groupmems", "newusers"], ⟨1, 1, 1, "Hh"⟩),
    (["gunzip", "uncompress"], ⟨1, 1, 2, "HvVh"⟩),
    (["dumpe2fs", "e2mmpstatus"], ⟨1, 1, 2, "V"⟩),
    (["chsh", "chgpasswd"], ⟨1, 2, 1, "Hh"⟩),
    (["nisdomainname", "ypdomainname"], ⟨1, 255, 1, "vV"⟩),
    (["mesg", "update-passwd"], ⟨2, 1, 2, "HvVh"⟩),
    (["getopt", "findfs"], ⟨2, 2, 0, "HvVh"⟩),
    (["pgrep", "pidwait"], ⟨2, 2, 1, "HvVh"⟩),
    (["grpck", "pwck"], ⟨4, 1, 4, "Hh"⟩),
    (["reset", "tset"], ⟨10, 1, 10, "V"⟩),
    (["mkfs.cramfs", "swapoff"], ⟨16, 16, 16, "HvVh"⟩),
    (["delgroup", "deluser"], ⟨54, 1, 54, "HvVh"⟩),
    (["addgroup", "adduser"], ⟨54, 51, 54, "HvVh"⟩),
    (["runcon", "chroot"], ⟨125, 125, 125, "Hv"⟩),
    (["zdump"], ⟨0, 1, 0, "HvV"⟩),
    (["toe"], ⟨0, 1, 0, "Vh"⟩),
    (["savelog"], ⟨0, 1, 0, "h"⟩),
    (["lastlog"], ⟨0, 1, 1, "Hh"⟩),
    (["ps"], ⟨0, 1, 1, "HvV"⟩),
    (["numfmt"], ⟨0, 1, 2, "Hv"⟩),
    (["blkid"], ⟨0, 1, 2, "HvVh"⟩),
    (["lsblk"], ⟨0, 1, 32, "HvVh"⟩),
    (["swapon"], ⟨0, 1, 255, "HvVh"⟩),
    (["chpasswd"], ⟨0, 2, 0, "Hh"⟩),
    (["mawk"], ⟨0, 2, 0, "Hv"⟩),
    (["faillog"], ⟨0, 2, 1, "Hh"⟩),
    (["fsck"], ⟨0, 16, 8, "HvVh"⟩),
    (["perl"], ⟨0, 25, 2, "HvVh"⟩),
    (["domainname"], ⟨0, 255, 1, "vV"⟩),
    (["dnsdomainname"], ⟨0, 255, 255, "vV"⟩),
    (["gzexe"], ⟨1, 0, 0, "HvVh"⟩),
    (["deb-systemd-invoke"], ⟨1, 0, 1, ""⟩),
    (["sysctl"], ⟨1, 0, 1, "HvVh"⟩),
    (["filefrag"], ⟨1, 1, 0, "V"⟩),
    (["watch"], ⟨1, 1, 1, "Hvh"⟩),
    (["isosize"], ⟨1, 1, 32, "HvVh"⟩),
    (["setpriv"], ⟨1, 1, 126, "HvVh"⟩),
    (["chfn"], ⟨1, 2, 1, "H"⟩),
    (["fstab-decode"], ⟨1, 127, 127, ""⟩),
    (["ld.so"], ⟨1, 127, 127, "Hv"⟩),
    (["tarcat"], ⟨2, 1, 0, "HvVh"⟩),
    (["faillock"], ⟨2, 1, 1, ""⟩),
    (["update-shells"], ⟨2, 1, 1, "H"⟩),
    (["pam_timestamp_check"], ⟨2, 1, 4, ""⟩),
    (["chage"], ⟨2, 2, 1, "Hh"⟩),
    (["expiry"], ⟨2, 2, 2, "Hh"⟩),
    (["tput"], ⟨2, 2, 2, "V"⟩),
    (["gpasswd"], ⟨2, 2, 3, "Hh"⟩),
    (["groupadd"], ⟨2, 2, 10, "Hh"⟩),
    (["debconf-apt-progress"], ⟨2, 2, 13, ""⟩),
    (["useradd"], ⟨2, 3, 1, "Hh"⟩),
    (["usermod"], ⟨2, 3, 6, "Hh"⟩),
    (["tar"], ⟨2, 64, 64, "Hv"⟩),
    (["start-stop-daemon"], ⟨3, 3, 3, "HvV"⟩),
    (["pwhistory_helper"], ⟨4, 4, 4, ""⟩),
    (["localedef"], ⟨4, 4, 4, "HvV"⟩),
    (["passwd"], ⟨10, 6, 1, "Hh"⟩),
    (["mkhomedir_helper"], ⟨14, 10, 10, ""⟩),
    (["flock"], ⟨64, 64, 64, "HvVh"⟩),
    (["invoke-rc.d"], ⟨103, 0, 103, "H"⟩),
    (["debconf-communicate"], ⟨127, 1, 127, ""⟩),
    (["debconf"], ⟨255, 1, 13, ""⟩)
  ]

def ofName (name : String) : Manner :=
  match table.find? fun e => e.1.contains name with
  | some (_, m) => m
  | none => ⟨1, 1, 1, "Hv"⟩

end Manner

end StreamSupervisor
