import ServerKeeper.FileTree.Basic

namespace ServerKeeper.Host

def toolNames : List String :=
  ["[", "apt-get", "arch", "awk", "b2sum", "base32", "base64", "basename", "bash", "bunzip2",
   "bzip2", "cat", "chgrp", "chmod", "chown", "chroot", "cksum", "clear", "cmp", "comm", "cp",
   "csplit", "curl", "cut", "dash", "date", "dd", "df", "diff", "dir", "dircolors", "dirname",
   "dpkg", "du", "echo", "egrep", "env", "expand", "expr", "factor", "false", "fgrep", "find",
   "flock", "fmt", "fold", "free", "getent", "getopt", "git", "grep", "groups", "gunzip", "gzip",
   "head", "hostid", "hostname", "id", "install", "join", "kill", "link", "ln", "logname", "ls",
   "make", "mawk", "md5sum", "mkdir", "mkfifo", "mknod", "mktemp", "more", "mount", "mv", "nawk",
   "nice", "nl", "nohup", "nproc", "numfmt", "od", "openssl", "passwd", "paste", "pathchk", "perl",
   "pinky", "pr", "printenv", "printf", "ps", "ptx", "pwd", "readlink", "realpath", "rev", "rm",
   "rmdir", "runcon", "sed", "seq", "setsid", "sh", "sha1sum", "sha224sum", "sha256sum",
   "sha384sum", "sha512sum", "shred", "shuf", "sleep", "sort", "split", "stat", "stdbuf", "stty",
   "sum", "sync", "tac", "tail", "tar", "tee", "test", "timeout", "touch", "tr", "true", "truncate",
   "tsort", "tty", "uname", "unexpand", "uniq", "unlink", "uptime", "users", "vdir", "wc", "which",
   "who", "whoami", "xargs", "xz", "yes", "zcat"]

def machineMark : List UInt8 := [0x7f, 0x45, 0x4c, 0x46]

def nativeMark : List UInt8 := machineMark ++ [0xff]

def nativeContent (name : String) : ByteArray :=
  ⟨(nativeMark ++ name.toUTF8.toList).toArray⟩

def workPlace : Location := ["tmp", "work"]

/-- The files of a host: the tools, a directory for temporary files, and an empty working directory.
-/
def files : FileTree where
  current := workPlace
  entries :=
    [(["tmp"], .directory 0o1777), (["tmp", "work"], .directory 0o755), (["bin"], .link "usr/bin"),
     (["etc"], .directory 0o755), (["home"], .directory 0o755), (["lib"], .link "usr/lib"),
     (["opt"], .directory 0o755), (["root"], .directory 0o700), (["sbin"], .link "usr/sbin"),
     (["usr"], .directory 0o755), (["usr", "bin"], .directory 0o755),
     (["usr", "lib"], .directory 0o755), (["usr", "sbin"], .directory 0o755),
     (["usr", "local"], .directory 0o755), (["usr", "local", "bin"], .directory 0o755),
     (["var"], .directory 0o755), (["var", "tmp"], .directory 0o1777),
     (["dev"], .directory 0o755)] ++
    toolNames.map fun name => (["usr", "bin", name], .file (nativeContent name) 0o755)

end ServerKeeper.Host
