namespace ServerKeeper.Host.Signal

def names : List String :=
  ["EXIT", "HUP", "INT", "QUIT", "ILL", "TRAP", "ABRT", "BUS", "FPE", "KILL", "USR1", "SEGV",
    "USR2", "PIPE", "ALRM", "TERM", "STKFLT", "CHLD", "CONT", "STOP", "TSTP", "TTIN", "TTOU",
    "URG", "XCPU", "XFSZ", "VTALRM", "PROF", "WINCH", "POLL", "PWR", "SYS"]

def interrupt : Nat := 2

def quit : Nat := 3

def kill : Nat := 9

def brokenPipe : Nat := 13

def terminate : Nat := 15

def goOn : Nat := 18

def greatest : Nat := 64

/-- The name of a signal. The real-time signals count up from one end and down to the other. -/
def name? (n : Nat) : Option String :=
  if n < names.length then names[n]?
  else if n = 32 ∨ n = 33 then some (toString n)
  else if n = 34 then some "RTMIN"
  else if n < 50 then some ("RTMIN+" ++ toString (n - 34))
  else if n < greatest then some ("RTMAX-" ++ toString (greatest - n))
  else if n = greatest then some "RTMAX"
  else none

def number? (name : String) : Option Nat :=
  (List.range (greatest + 1)).find? fun n => name? n = some name

def isHarmless (n : Nat) : Bool := [0, 17, 18, 23, 28].contains n

def isStop (n : Nat) : Bool := [19, 20, 21, 22].contains n

def obituary (n : Nat) : String :=
  let texts : List (Nat × String) :=
    [(1, "Hangup"), (2, "Interrupt"), (3, "Quit"), (4, "Illegal instruction"),
     (5, "Trace/breakpoint trap"), (6, "Aborted"), (7, "Bus error"),
     (8, "Floating point exception"), (9, "Killed"), (10, "User defined signal 1"),
     (11, "Segmentation fault"), (12, "User defined signal 2"), (13, "Broken pipe"),
     (14, "Alarm clock"), (15, "Terminated"), (16, "Stack fault"), (17, "Child exited"),
     (18, "Continued"), (19, "Stopped (signal)"), (20, "Stopped"), (21, "Stopped (tty input)"),
     (22, "Stopped (tty output)"), (23, "Urgent I/O condition"), (24, "CPU time limit exceeded"),
     (25, "File size limit exceeded"), (26, "Virtual timer expired"),
     (27, "Profiling timer expired"), (28, "Window changed"), (29, "I/O possible"),
     (30, "Power failure"), (31, "Bad system call")]
  (texts.lookup n).getD ("Real-time signal " ++ toString (n - 34))

end ServerKeeper.Host.Signal
