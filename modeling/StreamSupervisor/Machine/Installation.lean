import StreamSupervisor.Machine.Files

/-! # An installation

The files of a freshly installed machine that programs can count on: directories, devices,
programs, links between them, and some texts under /etc and /proc.
-/

namespace StreamSupervisor.Machine.Installation

/-- The programs of users. -/
def programs : List String :=
  [
    "[", "addpart", "apt", "apt-cache", "apt-cdrom", "apt-config", "apt-get", "apt-key",
    "apt-mark", "arch", "b2sum", "base32", "base64", "basename", "basenc", "bash", "bashbug",
    "captoinfo", "cat", "chage", "chattr", "chcon", "chfn", "chgrp", "chmod", "choom", "chown",
    "chrt", "chsh", "cksum", "clear", "clear_console", "cmp", "comm", "cp", "csplit", "cut",
    "dash", "date", "dd", "deb-systemd-helper", "deb-systemd-invoke", "debconf",
    "debconf-apt-progress", "debconf-communicate", "debconf-copydb", "debconf-escape",
    "debconf-set-selections", "debconf-show", "delpart", "df", "diff", "diff3", "dir",
    "dircolors", "dirname", "dmesg", "dnsdomainname", "domainname", "dpkg", "dpkg-deb",
    "dpkg-divert", "dpkg-maintscript-helper", "dpkg-query", "dpkg-realpath", "dpkg-split",
    "dpkg-statoverride", "dpkg-trigger", "du", "echo", "egrep", "env", "expand", "expiry",
    "expr", "factor", "faillog", "fallocate", "false", "fgrep", "find", "findmnt", "flock",
    "fmt", "fold", "free", "getconf", "getent", "getopt", "gpasswd", "grep", "groups", "gunzip",
    "gzexe", "gzip", "hardlink", "head", "hostid", "hostname", "i386", "iconv", "id", "infocmp",
    "infotocap", "install", "ionice", "ipcmk", "ipcrm", "ipcs", "ischroot", "join", "kill",
    "last", "lastb", "lastlog", "ld.so", "ldd", "link", "linux32", "linux64", "ln", "locale",
    "localedef", "logger", "login", "logname", "ls", "lsattr", "lsblk", "lscpu", "lsipc",
    "lslocks", "lslogins", "lsmem", "lsns", "mawk", "mcookie", "md5sum", "mesg", "mkdir",
    "mkfifo", "mknod", "mktemp", "more", "mount", "mountpoint", "mv", "namei", "newgrp", "nice",
    "nisdomainname", "nl", "nohup", "nproc", "nsenter", "numfmt", "od", "partx", "passwd",
    "paste", "pathchk", "perl", "pgrep", "pidof", "pidwait", "pinky", "pkill", "pldd", "pmap",
    "pr", "printenv", "printf", "prlimit", "ps", "ptx", "pwd", "pwdx", "readlink", "realpath",
    "rename.ul", "renice", "reset", "resizepart", "rev", "rgrep", "rm", "rmdir", "run-parts",
    "runcon", "savelog", "script", "scriptlive", "scriptreplay", "sdiff", "sed", "seq",
    "setarch", "setpriv", "setsid", "setterm", "sg", "sha1sum", "sha224sum", "sha256sum",
    "sha384sum", "sha512sum", "shred", "shuf", "skill", "slabtop", "sleep", "snice", "sort",
    "split", "stat", "stdbuf", "stty", "su", "sum", "sync", "tabs", "tac", "tail", "tar",
    "taskset", "tee", "tempfile", "test", "tic", "timeout", "tload", "toe", "top", "touch",
    "tput", "tr", "true", "truncate", "tset", "tsort", "tty", "tzselect", "uclampset", "umount",
    "uname", "uncompress", "unexpand", "uniq", "unlink", "unshare", "update-alternatives",
    "uptime", "users", "utmpdump", "vdir", "vmstat", "w", "wall", "watch", "wc", "wdctl",
    "whereis", "which.debianutils", "who", "whoami", "x86_64", "xargs", "yes", "ypdomainname",
    "zcat", "zcmp", "zdiff", "zdump", "zegrep", "zfgrep", "zforce", "zgrep", "zless", "zmore",
    "znew"]

/-- The programs of administrators. -/
def systemPrograms : List String :=
  [
    "add-shell", "addgroup", "adduser", "agetty", "badblocks", "blkdiscard", "blkid", "blkzone",
    "blockdev", "chcpu", "chgpasswd", "chmem", "chpasswd", "chroot", "cpgr", "cppw",
    "ctrlaltdel", "debugfs", "delgroup", "deluser", "dpkg-preconfigure", "dpkg-reconfigure",
    "dumpe2fs", "e2freefrag", "e2fsck", "e2image", "e2label", "e2mmpstatus", "e2scrub",
    "e2scrub_all", "e2undo", "e4crypt", "e4defrag", "faillock", "filefrag", "findfs", "fsck",
    "fsck.cramfs", "fsck.ext2", "fsck.ext3", "fsck.ext4", "fsck.minix", "fsfreeze",
    "fstab-decode", "fstrim", "groupadd", "groupdel", "groupmems", "groupmod", "grpck",
    "grpconv", "grpunconv", "iconvconfig", "installkernel", "invoke-rc.d", "isosize", "killall5",
    "ldattach", "ldconfig", "ldconfig.real", "losetup", "mke2fs", "mkfs", "mkfs.bfs",
    "mkfs.cramfs", "mkfs.ext2", "mkfs.ext3", "mkfs.ext4", "mkfs.minix", "mkhomedir_helper",
    "mklost+found", "mkswap", "newusers", "nologin", "pam_extrausers_chkpwd",
    "pam_extrausers_update", "pam_namespace_helper", "pam_timestamp_check", "pivot_root", "pwck",
    "pwconv", "pwhistory_helper", "pwunconv", "readprofile", "remove-shell", "resize2fs",
    "rmt-tar", "rtcwake", "runuser", "service", "shadowconfig", "start-stop-daemon", "sulogin",
    "swaplabel", "swapoff", "swapon", "switch_root", "sysctl", "tarcat", "tune2fs",
    "unix_chkpwd", "unix_update", "update-passwd", "update-rc.d", "update-shells", "useradd",
    "userdel", "usermod", "vigr", "vipw", "wipefs", "zic", "zramctl"]

/-- Programs that run with the rights of their owner or of their group. -/
def privileged : List (String × Nat) :=
  [("su", 2541), ("mount", 2541), ("umount", 2541), ("passwd", 2541), ("chsh", 2541),
    ("chfn", 2541), ("gpasswd", 2541), ("newgrp", 2541), ("chage", 1517), ("expiry", 1517)]

def directories : List String :=
  ["/boot", "/dev/pts", "/dev/shm", "/dev/mqueue", "/home", "/media", "/mnt", "/opt", "/srv",
    "/proc/self/fd", "/proc/sys/kernel", "/proc/1", "/proc/net", "/run/lock", "/sys/block",
    "/sys/class",
    "/sys/devices", "/sys/fs", "/sys/kernel", "/sys/module", "/usr/games", "/usr/include",
    "/usr/lib/x86_64-linux-gnu", "/usr/lib/locale", "/usr/lib64", "/usr/libexec",
    "/usr/local/bin", "/usr/local/etc",
    "/usr/local/games", "/usr/local/include", "/usr/local/lib", "/usr/local/sbin",
    "/usr/local/share/man", "/usr/local/src", "/usr/share/common-licenses", "/usr/share/doc",
    "/usr/share/dict", "/usr/share/info", "/usr/share/locale", "/usr/share/man/man1",
    "/usr/share/misc", "/usr/share/perl5", "/usr/share/zoneinfo", "/usr/src", "/var/backups",
    "/var/cache/apt", "/var/lib/apt", "/var/lib/dpkg", "/var/lib/misc", "/var/local",
    "/var/log/apt", "/var/mail", "/var/opt", "/var/spool", "/etc/apt/sources.list.d",
    "/etc/cron.d", "/etc/cron.daily", "/etc/default", "/etc/dpkg", "/etc/init.d",
    "/etc/ld.so.conf.d", "/etc/logrotate.d", "/etc/opt", "/etc/pam.d", "/etc/profile.d",
    "/etc/rc0.d", "/etc/security", "/etc/skel", "/etc/systemd", "/etc/terminfo",
    "/etc/update-motd.d"]

/-- Directories with permissions of their own: for everybody, or for nobody else. -/
def specialDirectories : List (String × Nat) :=
  [("/tmp", 1023), ("/var/tmp", 1023), ("/dev/shm", 1023), ("/root", 448),
    ("/var/cache/ldconfig", 448), ("/lost+found", 448)]

/-- A text of lines. -/
def fileOf (ls : List String) : String := String.join (ls.map (· ++ "\n"))

def passwords : String :=
  fileOf ["root:x:0:0:root:/root:/bin/bash", "daemon:x:1:1:daemon:/usr/sbin:/usr/sbin/nologin",
    "bin:x:2:2:bin:/bin:/usr/sbin/nologin", "sys:x:3:3:sys:/dev:/usr/sbin/nologin",
    "sync:x:4:65534:sync:/bin:/bin/sync", "games:x:5:60:games:/usr/games:/usr/sbin/nologin",
    "man:x:6:12:man:/var/cache/man:/usr/sbin/nologin",
    "lp:x:7:7:lp:/var/spool/lpd:/usr/sbin/nologin", "mail:x:8:8:mail:/var/mail:/usr/sbin/nologin",
    "news:x:9:9:news:/var/spool/news:/usr/sbin/nologin",
    "uucp:x:10:10:uucp:/var/spool/uucp:/usr/sbin/nologin",
    "proxy:x:13:13:proxy:/bin:/usr/sbin/nologin",
    "www-data:x:33:33:www-data:/var/www:/usr/sbin/nologin",
    "backup:x:34:34:backup:/var/backups:/usr/sbin/nologin",
    "list:x:38:38:Mailing List Manager:/var/list:/usr/sbin/nologin",
    "irc:x:39:39:ircd:/run/ircd:/usr/sbin/nologin",
    "_apt:x:42:65534::/nonexistent:/usr/sbin/nologin",
    "nobody:x:65534:65534:nobody:/nonexistent:/usr/sbin/nologin"]

def groups : String :=
  fileOf ["root:x:0:", "daemon:x:1:", "bin:x:2:", "sys:x:3:", "adm:x:4:", "tty:x:5:", "disk:x:6:",
    "lp:x:7:", "mail:x:8:", "news:x:9:", "uucp:x:10:", "man:x:12:", "proxy:x:13:", "kmem:x:15:",
    "dialout:x:20:", "fax:x:21:", "voice:x:22:", "cdrom:x:24:", "floppy:x:25:", "tape:x:26:",
    "sudo:x:27:", "audio:x:29:", "dip:x:30:", "www-data:x:33:", "backup:x:34:", "operator:x:37:",
    "list:x:38:", "irc:x:39:", "src:x:40:", "shadow:x:42:", "utmp:x:43:", "video:x:44:",
    "sasl:x:45:", "plugdev:x:46:", "staff:x:50:", "games:x:60:", "users:x:100:",
    "nogroup:x:65534:"]

def release : String :=
  fileOf ["PRETTY_NAME=\"Debian GNU/Linux 12 (bookworm)\"", "NAME=\"Debian GNU/Linux\"",
    "VERSION_ID=\"12\"", "VERSION=\"12 (bookworm)\"", "VERSION_CODENAME=bookworm", "ID=debian"]

def texts : List (String × String) :=
  [("/etc/passwd", passwords), ("/etc/group", groups), ("/usr/lib/os-release", release),
    ("/etc/hosts", "127.0.0.1\tlocalhost\n::1\tlocalhost ip6-localhost ip6-loopback\n"),
    ("/etc/hostname", "machine\n"), ("/etc/resolv.conf", "nameserver 127.0.0.1\n"),
    ("/etc/debian_version", "12.11\n"), ("/etc/host.conf", "multi on\n"),
    ("/etc/shells", fileOf ["# /etc/shells: valid login shells", "/bin/sh", "/bin/bash",
      "/usr/bin/bash", "/bin/rbash", "/usr/bin/rbash", "/usr/bin/sh", "/bin/dash",
      "/usr/bin/dash"]),
    ("/etc/issue", "Debian GNU/Linux 12 \\n \\l\n\n"),
    ("/etc/issue.net", "Debian GNU/Linux 12\n"),
    ("/etc/fstab", "# UNCONFIGURED FSTAB FOR BASE SYSTEM\n"),
    ("/etc/profile", "# /etc/profile: system-wide .profile file\n"),
    ("/etc/bash.bashrc", "# System-wide .bashrc file for interactive shells.\n"),
    ("/etc/nsswitch.conf", "passwd: files\ngroup: files\nhosts: files dns\n"),
    ("/etc/ld.so.conf", "include /etc/ld.so.conf.d/*.conf\n"), ("/etc/ld.so.cache", "cache\n"),
    ("/etc/login.defs", "# /etc/login.defs\n"), ("/etc/environment", ""),
    ("/etc/motd", "\nThe programs included with the system are free software.\n"),
    ("/etc/machine-id", ""), ("/etc/timezone", "Etc/UTC\n"),
    ("/etc/localtime", "TZif2\n"), ("/etc/adduser.conf", "# /etc/adduser.conf\n"),
    ("/etc/debconf.conf", "# Debconf configuration\n"), ("/etc/deluser.conf", "# deluser\n"),
    ("/etc/gai.conf", "# Configuration for getaddrinfo\n"), ("/etc/libaudit.conf", "#\n"),
    ("/etc/pam.conf", "# /etc/pam.conf\n"), ("/etc/subuid", ""), ("/etc/subgid", ""),
    ("/etc/e2scrub.conf", "#\n"), ("/etc/xattr.conf", "#\n"),
    ("/etc/mke2fs.conf", "[defaults]\n"), ("/etc/skel/.bashrc", "# ~/.bashrc\n"),
    ("/etc/skel/.profile", "# ~/.profile\n"), ("/etc/skel/.bash_logout", "# logout\n"),
    ("/usr/share/common-licenses/GPL-3", "GENERAL PUBLIC TERMS\n"),
    ("/usr/share/common-licenses/GPL-2", "GENERAL PUBLIC TERMS\n"),
    ("/proc/version", "Linux version 6.1.0 (gcc) #1 SMP\n"), ("/proc/uptime", "1000.00 900.00\n"),
    ("/proc/cpuinfo", "processor\t: 0\n"), ("/proc/meminfo", "MemTotal: 8000000 kB\n"),
    ("/proc/mounts", "overlay / overlay rw 0 0\n"), ("/proc/loadavg", "0.00 0.00 0.00 1/9 9\n"),
    ("/proc/stat", "cpu 0 0 0 0\n"), ("/proc/filesystems", "nodev\tproc\n"),
    ("/proc/cmdline", "quiet\n"), ("/proc/self/status", "Name:\tself\n"),
    ("/proc/self/stat", "1 (self) R\n"), ("/proc/self/cmdline", "self\x00"),
    ("/proc/self/environ", "A=1\x00"), ("/proc/self/maps", "0-1 r-xp\n"),
    ("/proc/sys/kernel/hostname", "machine\n"), ("/proc/sys/kernel/pid_max", "4194304\n"),
    ("/proc/sys/kernel/ostype", "Linux\n"), ("/proc/sys/kernel/osrelease", "6.1.0\n"),
    ("/usr/lib/x86_64-linux-gnu/libc.so.6", "\x7fELF\n"),
    ("/usr/lib64/ld-linux-x86-64.so.2", "\x7fELF\n")]

/-- Texts that only their owner may read. -/
def secrets : List (String × String) :=
  [("/etc/shadow", "root:*:19000:0:99999:7:::\n"), ("/etc/gshadow", "root:*::\n"),
    ("/etc/.pwd.lock", ""), ("/etc/security/opasswd", "")]

def links : List (String × String) :=
  [("/bin", "usr/bin"), ("/sbin", "usr/sbin"), ("/lib", "usr/lib"), ("/lib64", "usr/lib64"),
    ("/usr/bin/sh", "dash"), ("/usr/bin/rbash", "bash"), ("/usr/bin/awk", "/etc/alternatives/awk"),
    ("/etc/alternatives/awk", "/usr/bin/mawk"), ("/usr/bin/nawk", "/etc/alternatives/nawk"),
    ("/etc/alternatives/nawk", "/usr/bin/mawk"), ("/usr/bin/which", "/etc/alternatives/which"),
    ("/etc/alternatives/which", "/usr/bin/which.debianutils"), ("/etc/mtab", "/proc/mounts"),
    ("/etc/os-release", "../usr/lib/os-release"), ("/var/run", "/run"), ("/var/lock", "/run/lock"),
    ("/dev/fd", "/proc/self/fd"), ("/dev/stdin", "/proc/self/fd/0"),
    ("/dev/stdout", "/proc/self/fd/1"), ("/dev/stderr", "/proc/self/fd/2"),
    ("/dev/ptmx", "pts/ptmx"), ("/dev/core", "/proc/kcore"), ("/proc/self/cwd", "/work"),
    ("/proc/self/root", "/"), ("/var/spool/mail", "../mail")]

def devices : List (String × Device) :=
  [("/dev/null", .null), ("/dev/zero", .zero), ("/dev/full", .full), ("/dev/random", .random),
    ("/dev/urandom", .random), ("/dev/tty", .terminal)] ++
    (List.range 64).map fun n => ("/proc/self/fd/" ++ toString n, Device.descriptor n)

/-- The directory in which processes begin, and the one for the launched script. -/
def workDirectory : String := "/work"
def scriptDirectory : String := "/tmp/scratch"

def directory (mode : Nat) (mine : Bool) : FileNode :=
  { content := .directory [], mode := mode, mine := mine }

def files : Files :=
  let put (f : Files) (entries : List (String × FileNode)) : Files :=
    entries.foldl (fun f e => f.install e.1 e.2) f
  let program (place name : String) : String × FileNode :=
    (place ++ name, { content := .program name, mode := 493 })
  let f := put .empty (programs.map fun name =>
    let entry := program "/usr/bin/" name
    (entry.1, { entry.2 with mode := (privileged.lookup name).getD 493 }))
  let f := put f (systemPrograms.map (program "/usr/sbin/"))
  let f := put f (directories.map fun d => (d, directory 493 false))
  let f := put f (specialDirectories.map fun d => (d.1, directory d.2 false))
  let f := put f (texts.map fun t => (t.1, { content := .file t.2, mode := 420 }))
  let f := put f (secrets.map fun t => (t.1, { content := .file t.2, mode := 416 }))
  let f := put f (links.map fun l => (l.1, { content := .link l.2, mode := 511 }))
  let f := put f (devices.map fun d => (d.1, { content := .device d.2, mode := 438 }))
  put f ([workDirectory, scriptDirectory].map fun d => (d, directory 493 true))

end StreamSupervisor.Machine.Installation
