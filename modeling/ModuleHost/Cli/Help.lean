import ModuleHost.Cli.Arguments

/-!
# Help texts
-/
namespace ModuleHost.Cli

def versionNumber : String := "0.1.0"

def versionText : String := "modhost " ++ versionNumber ++ "\n"

def usageLine : Topic → String
  | .program => "Usage: modhost [OPTIONS] <COMMAND>"
  | .call => "Usage: modhost call [OPTIONS] [MODULE]"
  | .inspect => "Usage: modhost inspect [OPTIONS] [MODULE]"
  | .help => "Usage: modhost help [COMMAND]..."

def configHelp : String := "Config file (default: modhost.toml in this or a parent directory)"

def moduleHelp : String := "Module name or path (default: module.path from config)"

def helpLines : Topic → List String
  | .program =>
    ["Load and drive native request-handler modules", "", usageLine .program, "",
      "Commands:",
      "  call     Send requests through a module, then unload it",
      "  inspect  Show a module's entry points and ABI version without initializing it",
      "  help     Print this message or the help of the given subcommand(s)", "",
      "Options:",
      "      --config <CONFIG>  " ++ configHelp,
      "  -h, --help             Print help",
      "  -V, --version          Print version"]
  | .call =>
    ["Send requests through a module, then unload it", "", usageLine .call, "",
      "Arguments:",
      "  [MODULE]  " ++ moduleHelp, "",
      "Options:",
      "      --config <CONFIG>            " ++ configHelp,
      "  -X, --method <METHOD>            Request method [default: GET]",
      "  -u, --uri <URI>                  Request URI [default: /]",
      "  -H, --header <NAME:VALUE>        Request header as NAME:VALUE (repeatable)",
      "  -b, --body <BODY>                Request body",
      "  -n, --repeat <REPEAT>            Number of requests to send [default: 1]",
      "  -c, --concurrency <CONCURRENCY>  Worker threads sending requests [default: 1]",
      "      --proxy                      Route through HandleProxyRequest instead of HandleRequest",
      "      --json                       Output as JSON",
      "  -h, --help                       Print help"]
  | .inspect =>
    ["Show a module's entry points and ABI version without initializing it", "",
      usageLine .inspect, "",
      "Arguments:",
      "  [MODULE]  " ++ moduleHelp, "",
      "Options:",
      "      --config <CONFIG>  " ++ configHelp,
      "  -h, --help             Print help"]
  | .help =>
    ["Print this message or the help of the given subcommand(s)", "", usageLine .help, "",
      "Arguments:",
      "  [COMMAND]...  Print help for the subcommand(s)"]

def helpText (t : Topic) : String := String.join ((helpLines t).map (· ++ "\n"))

/-- What is said of a command line that cannot be read. -/
def misuseText : String :=
  "error: the command line cannot be read\n\n" ++ usageLine .program
    ++ "\n\nFor more information, try '--help'.\n"

end ModuleHost.Cli
