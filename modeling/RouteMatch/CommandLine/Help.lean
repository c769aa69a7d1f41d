import RouteMatch.CommandLine.Reading

/-!
# Help

## Main definitions

* `helpText` — the description of the program or of a command.
-/

namespace RouteMatch.CommandLine

/-- The description of the whole program. -/
def programHelp : List String :=
  ["usage: roost [-h] [-v] \x7bcompile,match\x7d ...",
    "",
    "Roost — URL route templates and request matching.",
    "",
    "positional arguments:",
    "  \x7bcompile,match\x7d",
    "    compile        Print a template's compiled pattern",
    "    match          Evaluate a path against a template",
    "",
    "options:",
    "  -h, --help       show this help message and exit",
    "  -v, --verbose    Enable debug logging"]

/-- The description of the command that prints patterns. -/
def compileHelp : List String :=
  ["usage: roost compile [-h] [--token NAME=REGEX] [--wildcard WILDCARD] template",
    "",
    "positional arguments:",
    "  template             Route path template (e.g. /blog/\x7bid\x7d\x7b/year,month\x7d)",
    "",
    "options:",
    "  -h, --help           show this help message and exit",
    "  --token NAME=REGEX   Custom subpattern for a token (repeatable)",
    "  --wildcard WILDCARD  Name of the trailing wildcard param"]

/-- The description of the command that evaluates paths. -/
def evaluateHelp : List String :=
  ["usage: roost match [-h] [--token NAME=REGEX] [--wildcard WILDCARD]",
    "                   [--method METHOD] [--accept TYPE/SUBTYPE]",
    "                   [--secure | --insecure] [--request-method REQUEST_METHOD]",
    "                   [--header-accept HEADER_ACCEPT] [--https] [--port PORT]",
    "                   template path",
    "",
    "positional arguments:",
    "  template              Route path template (e.g. /blog/\x7bid\x7d\x7b/year,month\x7d)",
    "  path                  Request path to evaluate",
    "",
    "options:",
    "  -h, --help            show this help message and exit",
    "  --token NAME=REGEX    Custom subpattern for a token (repeatable)",
    "  --wildcard WILDCARD   Name of the trailing wildcard param",
    "  --method METHOD       Allowed HTTP method for the route (repeatable)",
    "  --accept TYPE/SUBTYPE",
    "                        Media type the route produces (repeatable)",
    "  --secure",
    "  --insecure",
    "  --request-method REQUEST_METHOD",
    "                        Request method",
    "  --header-accept HEADER_ACCEPT",
    "                        Request Accept header",
    "  --https               Request arrived over TLS",
    "  --port PORT           Request server port"]

/-- The description of a command, or of the whole program. -/
def helpText (command : Option Command) : String :=
  let lines :=
    match command with
    | none => programHelp
    | some .compile => compileHelp
    | some .evaluate => evaluateHelp
  String.join (lines.map (· ++ "\n"))

end RouteMatch.CommandLine
