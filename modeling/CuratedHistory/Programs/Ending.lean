import CuratedHistory.Text.Decimal

namespace CuratedHistory

/-! How programs end: with a status of their own, or by a signal. -/

/-- The names of the signals with what a shell says of a program that one has ended, the
first signal first. -/
def signalNames : List (String × String) :=
  [("HUP", "Hangup"), ("INT", "Interrupt"), ("QUIT", "Quit"), ("ILL", "Illegal instruction"),
    ("TRAP", "Trace/breakpoint trap"), ("ABRT", "Aborted"), ("BUS", "Bus error"),
    ("FPE", "Floating point exception"), ("KILL", "Killed"), ("USR1", "User defined signal 1"),
    ("SEGV", "Segmentation fault"), ("USR2", "User defined signal 2"), ("PIPE", "Broken pipe"),
    ("ALRM", "Alarm clock"), ("TERM", "Terminated"), ("STKFLT", "Stack fault"),
    ("CHLD", "Child exited"), ("CONT", "Continued"), ("STOP", "Stopped (signal)"),
    ("TSTP", "Stopped"), ("TTIN", "Stopped (tty input)"), ("TTOU", "Stopped (tty output)"),
    ("URG", "Urgent I/O condition"), ("XCPU", "CPU time limit exceeded"),
    ("XFSZ", "File size limit exceeded"), ("VTALRM", "Virtual timer expired"),
    ("PROF", "Profiling timer expired"), ("WINCH", "Window changed"), ("IO", "I/O possible"),
    ("PWR", "Power failure"), ("SYS", "Bad system call")]

inductive Ending where
  | exited (status : Nat)
  | killed (signal : Nat)
  deriving DecidableEq, Repr

namespace Ending

def isSuccess (ending : Ending) : Bool :=
  ending = .exited 0

def text : Ending → Text
  | .exited status => "exit status: ".toList ++ Decimal.digits status
  | .killed signal =>
      "signal: ".toList ++ Decimal.digits signal ++
        match signalNames[signal - 1]? with
        | some entry => " (SIG".toList ++ entry.1.toList ++ [')']
        | none => []

end Ending

end CuratedHistory
