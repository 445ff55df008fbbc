namespace LivePreview.CommandLine

def versionText : String := "sandbox-cli 0.1.0\n"

def aboutText : String := "Sandbox bundler headless CLI"

def lines (texts : List String) : String :=
  String.join (texts.map fun text => text ++ "\n")

def jsonHelp : String := "Output raw JSON instead of formatted text"

def overview : String :=
  lines
    [aboutText, "", "Usage: sandbox-cli [OPTIONS] <COMMAND>", "", "Commands:",
     "  resolve  Print the transformer chain each path would get",
     "  deps     Print the dependency manifest after the preset's additions",
     "  serve    Speak the host protocol as JSON lines on stdin/stdout",
     "  help     Print this message or the help of the given subcommand(s)", "", "Options:",
     "      --json     " ++ jsonHelp, "  -h, --help     Print help",
     "  -V, --version  Print version"]

def resolveHelp : String :=
  lines
    ["Print the transformer chain each path would get", "",
     "Usage: sandbox-cli resolve [OPTIONS] <PATHS>...", "", "Arguments:", "  <PATHS>...  ", "",
     "Options:", "      --json                 " ++ jsonHelp,
     "      --template <TEMPLATE>  [default: react]", "  -h, --help                 Print help"]

def dependenciesHelp : String :=
  lines
    ["Print the dependency manifest after the preset's additions", "",
     "Usage: sandbox-cli deps [OPTIONS]", "", "Options:",
     "      --json                 " ++ jsonHelp,
     "      --template <TEMPLATE>  [default: react]",
     "      --dep <DEPS>           NAME=RANGE, repeatable",
     "  -h, --help                 Print help"]

def serveHelp : String :=
  lines
    ["Speak the host protocol as JSON lines on stdin/stdout", "",
     "Usage: sandbox-cli serve [OPTIONS]", "", "Options:",
     "      --config <CONFIG>                  ",
     "      --json                             " ++ jsonHelp,
     "      --debounce-ms <DEBOUNCE_MS>        ",
     "      --default-preset <DEFAULT_PRESET>  ",
     "      --log-level <LOG_LEVEL>            ",
     "  -h, --help                             Print help"]

def helpOfHelp : String :=
  lines
    ["Print this message or the help of the given subcommand(s)", "",
     "Usage: sandbox-cli help [COMMAND]...", "", "Arguments:",
     "  [COMMAND]...  Print help for the subcommand(s)"]

def helpText : Option String → String
  | some "resolve" => resolveHelp
  | some "deps" => dependenciesHelp
  | some "serve" => serveHelp
  | some "help" => helpOfHelp
  | _ => overview

end LivePreview.CommandLine
