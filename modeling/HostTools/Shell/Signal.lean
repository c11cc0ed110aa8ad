import HostTools.Text.Digits

set_option autoImplicit false

namespace HostTools.Shell.Signal

-- From number 1 on. One signal has no name.
def table : List (String × String) :=
  [("HUP", "Hangup"), ("INT", ""), ("QUIT", "Quit"), ("ILL", "Illegal instruction"),
    ("TRAP", "Trace/breakpoint trap"), ("ABRT", "Aborted"), ("BUS", "Bus error"),
    ("FPE", "Floating point exception"), ("KILL", "Killed"), ("USR1", "User defined signal 1"),
    ("SEGV", "Segmentation fault"), ("USR2", "User defined signal 2"), ("PIPE", ""),
    ("ALRM", "Alarm clock"), ("TERM", "Terminated"), ("16", "Stack fault"),
    ("CHLD", "Child exited"), ("CONT", "Continued"), ("STOP", "Stopped (signal)"),
    ("TSTP", "Stopped"), ("TTIN", "Stopped (tty input)"), ("TTOU", "Stopped (tty output)"),
    ("URG", "Urgent I/O condition"), ("XCPU", "CPU time limit exceeded"),
    ("XFSZ", "File size limit exceeded"), ("VTALRM", "Virtual timer expired"),
    ("PROF", "Profiling timer expired"), ("WINCH", "Window changed"), ("IO", "I/O possible"),
    ("PWR", "Power failure"), ("SYS", "Bad system call")]

def greatest : Nat := 64

-- Those that do not end a process which does nothing about them.
def harmless : List Nat := [17, 18, 19, 20, 21, 22, 23, 28]

def obituary (number : Nat) : String :=
  match table[number - 1]? with
  | some (_, text) => text
  | none =>
    if number < 34 then "Unknown signal " ++ Digits.decimalText number
    else "Real-time signal " ++ Digits.decimalText (number - 34)

-- The signals for applications count from the first of them, or back from the last.
def name (number : Nat) : String :=
  if number = 0 then "EXIT"
  else
    match table[number - 1]? with
    | some (name, _) => name
    | none =>
      if number < 34 then Digits.decimalText number
      else if number = 34 then "RTMIN"
      else if number < 50 then "RTMIN+" ++ Digits.decimalText (number - 34)
      else if number < greatest then "RTMAX-" ++ Digits.decimalText (greatest - number)
      else "RTMAX"

def number? (least : Nat) (word : String) : Option Nat :=
  match Digits.read? 10 word.toList with
  | some number => if number ≤ greatest then some number else none
  | none =>
    let upper := word.map Char.toUpper
    ((List.range (greatest + 1)).drop least).find? fun number => name number = upper

end HostTools.Shell.Signal
