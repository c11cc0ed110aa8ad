import HostTools.Terminal.Styled
import HostTools.Text.Digits

set_option autoImplicit false

namespace HostTools

inductive Topic where
  | program
  | exec
  | fetch
  | addresses
  | help
deriving DecidableEq, Repr

inductive OptionKey where
  | format
  | logFormat
  | cwd
  | clearEnv
  | env
  | host
  | port
  | method
  | path
  | keyFile
  | certFile
  | timeout
deriving DecidableEq, Repr

namespace OptionKey

def name : OptionKey → String
  | .format => "format"
  | .logFormat => "log-format"
  | .cwd => "cwd"
  | .clearEnv => "clear-env"
  | .env => "env"
  | .host => "host"
  | .port => "port"
  | .method => "method"
  | .path => "path"
  | .keyFile => "key-file"
  | .certFile => "cert-file"
  | .timeout => "timeout-secs"

def valueName? : OptionKey → Option String
  | .format => some "FORMAT"
  | .logFormat => some "LOG_FORMAT"
  | .cwd => some "CWD"
  | .clearEnv => none
  | .env => some "KEY=VALUE"
  | .host => some "HOST"
  | .port => some "PORT"
  | .method => some "METHOD"
  | .path => some "PATH"
  | .keyFile => some "KEY_FILE"
  | .certFile => some "CERT_FILE"
  | .timeout => some "TIMEOUT_SECS"

def takesValue (key : OptionKey) : Bool := key.valueName?.isSome

def repeatable (key : OptionKey) : Bool := key = .env

def written (key : OptionKey) : Styled :=
  .literal ("--" ++ key.name) ++
    match key.valueName? with
    | some value => .plain (" <" ++ value ++ ">")
    | none => []

def shown (key : OptionKey) : String := String.join (key.written.map Prod.snd)

def about : OptionKey → String
  | .format => "Output format"
  | .logFormat => "Log format (pretty or json)"
  | .cwd => "Working directory for the command"
  | .clearEnv => "Start the command with an empty environment"
  | .env => "Environment assignment KEY=VALUE (repeatable)"
  | .host => "Server host name or IP address"
  | .port => "Server port"
  | .method => "HTTP method"
  | .path => "Request path"
  | .keyFile => "PEM client key (HTTPS only together with --cert-file)"
  | .certFile => "PEM client certificate (HTTPS only together with --key-file)"
  | .timeout => "Request timeout in seconds"

def fromEnvironment : OptionKey → Option String
  | .logFormat => some "HOSTKIT_LOG_FORMAT"
  | .keyFile => some "HOSTKIT_KEY_FILE"
  | .certFile => some "HOSTKIT_CERT_FILE"
  | _ => none

def default? : OptionKey → Option String
  | .format => some "text"
  | .logFormat => some "pretty"
  | .method => some "GET"
  | .path => some "/"
  | .timeout => some "1"
  | _ => none

def choices : OptionKey → List String
  | .format => ["text", "json"]
  | _ => []

end OptionKey

namespace Topic

def keys : Topic → List OptionKey
  | .program => [.format, .logFormat]
  | .exec => [.cwd, .clearEnv, .env, .format, .logFormat]
  | .fetch =>
    [.host, .port, .method, .format, .path, .keyFile, .logFormat, .certFile, .timeout]
  | .addresses => [.format, .logFormat]
  | .help => []

def required : Topic → List OptionKey
  | .fetch => [.host, .port]
  | _ => []

def commands : List (String × Topic) :=
  [("exec", .exec), ("fetch", .fetch), ("is-ip", .addresses), ("help", .help)]

def ofName? (name : String) : Option Topic := commands.lookup name

def about : Topic → String
  | .program => "Hostkit server utilities"
  | .exec => "Run a command (no shell) and print its output"
  | .fetch => "Issue one HTTP request and print the body of a 200 response"
  | .addresses => "Check whether each argument is an IPv4 or IPv6 address"
  | .help => "Print this message or the help of the given subcommand(s)"

def name : Topic → String
  | .program => "hostkit"
  | .exec => "hostkit exec"
  | .fetch => "hostkit fetch"
  | .addresses => "hostkit is-ip"
  | .help => "hostkit help"

def usage (topic : Topic) : Styled :=
  .literal topic.name ++
    match topic with
    | .program => .plain " [OPTIONS] <COMMAND>"
    | .exec => .plain " [OPTIONS] " ++ .literal "--" ++ .plain " <ARGV>..."
    | .fetch =>
      .plain " [OPTIONS] " ++ OptionKey.written .host ++ .plain " " ++ OptionKey.written .port
    | .addresses => .plain " [OPTIONS] <ADDRESSES>..."
    | .help => .plain " [COMMAND]..."

def positional? : Topic → Option (String × String)
  | .exec => some ("<ARGV>...", "Program and arguments")
  | .addresses => some ("<ADDRESSES>...", "Candidate addresses")
  | .help => some ("[COMMAND]...", "Print help for the subcommand(s)")
  | _ => none

end Topic

end HostTools
