set_option autoImplicit false

namespace HostTools.Shell.Name

def isStart (char : Char) : Bool := char.isAlpha || char = '_'

def isInside (char : Char) : Bool := char.isAlphanum || char = '_'

def isName (text : String) : Bool :=
  match text.toList with
  | [] => false
  | char :: rest => isStart char && rest.all isInside

def isSpecial (char : Char) : Bool := ['@', '*', '#', '?', '-', '$', '!'].contains char

def reserved : List String :=
  ["!", "case", "do", "done", "elif", "else", "esac", "fi", "for", "if", "in", "then", "until",
    "while", "\x7b", "\x7d"]

-- Those whose faults end the shell and whose assignments stay.
def specialBuiltins : List String :=
  [".", ":", "break", "continue", "eval", "exec", "exit", "export", "local", "readonly", "return",
    "set", "shift", "times", "trap", "unset"]

def plainBuiltins : List String :=
  ["[", "alias", "bg", "cd", "chdir", "command", "echo", "false", "fg", "getopts", "hash", "jobs",
    "kill", "printf", "pwd", "read", "test", "true", "type", "ulimit", "umask", "unalias", "wait"]

def isBuiltin (name : String) : Bool := specialBuiltins.contains name || plainBuiltins.contains name

def assigning : List String := ["alias", "export", "local", "readonly"]

end HostTools.Shell.Name
