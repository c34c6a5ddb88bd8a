import ServerKeeper.Host.Table

namespace ServerKeeper.Host

structure User where
  name : String
  number : Nat
  group : Nat
  home : String

namespace User

def all : List User :=
  [⟨"root", 0, 0, "/root"⟩, ⟨"daemon", 1, 1, "/usr/sbin"⟩, ⟨"bin", 2, 2, "/bin"⟩,
   ⟨"sys", 3, 3, "/dev"⟩, ⟨"sync", 4, 65534, "/bin"⟩, ⟨"games", 5, 60, "/usr/games"⟩,
   ⟨"man", 6, 12, "/var/cache/man"⟩, ⟨"lp", 7, 7, "/var/spool/lpd"⟩, ⟨"mail", 8, 8, "/var/mail"⟩,
   ⟨"news", 9, 9, "/var/spool/news"⟩, ⟨"uucp", 10, 10, "/var/spool/uucp"⟩,
   ⟨"proxy", 13, 13, "/bin"⟩, ⟨"www-data", 33, 33, "/var/www"⟩,
   ⟨"backup", 34, 34, "/var/backups"⟩, ⟨"list", 38, 38, "/var/list"⟩,
   ⟨"irc", 39, 39, "/run/ircd"⟩, ⟨"_apt", 42, 65534, "/nonexistent"⟩,
   ⟨"nobody", 65534, 65534, "/nonexistent"⟩]

def named? (name : String) : Option User := all.find? (·.name == name)

def numbered? (n : Nat) : Option User := all.find? (·.number = n)

def shown (n : Nat) : String := ((numbered? n).map (·.name)).getD (toString n)

end User

namespace Group

def all : Table String Nat :=
  [("root", 0), ("daemon", 1), ("bin", 2), ("sys", 3), ("adm", 4), ("tty", 5), ("disk", 6),
   ("lp", 7), ("mail", 8), ("news", 9), ("uucp", 10), ("man", 12), ("proxy", 13), ("kmem", 15),
   ("dialout", 20), ("fax", 21), ("voice", 22), ("cdrom", 24), ("floppy", 25), ("tape", 26),
   ("sudo", 27), ("audio", 29), ("dip", 30), ("www-data", 33), ("backup", 34), ("operator", 37),
   ("list", 38), ("irc", 39), ("src", 40), ("shadow", 42), ("utmp", 43), ("video", 44),
   ("sasl", 45), ("plugdev", 46), ("staff", 50), ("games", 60), ("users", 100),
   ("nogroup", 65534)]

def named? (name : String) : Option Nat := all.lookup name

def name? (n : Nat) : Option String := (all.find? (·.2 = n)).map (·.1)

def shown (n : Nat) : String := (name? n).getD (toString n)

end Group

end ServerKeeper.Host
