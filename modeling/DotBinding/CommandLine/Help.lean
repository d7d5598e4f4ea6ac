/-!
# Help pages

The help pages of the program.
-/

namespace DotBinding.CommandLine

inductive HelpPage where
  | main
  | bind
  | parse
  deriving DecidableEq

namespace HelpPage

def lines : HelpPage → List String
  | main =>
    ["usage: graph-config [-h] [-v] \x7bbind,parse\x7d ...",
      "",
      "Bind DOT graph templates to data",
      "",
      "positional arguments:",
      "  \x7bbind,parse\x7d",
      "    bind         Bind a template to a JSON value bundle",
      "    parse        Parse a template and summarise it",
      "",
      "options:",
      "  -h, --help     show this help message and exit",
      "  -v, --verbose  Log binding diagnostics (default level from",
      "                 GRAPH_CONFIG_LOG_LEVEL)"]
  | bind =>
    ["usage: graph-config bind [-h] [--kind \x7bdot,graph,digraph\x7d]",
      "                         [--format \x7bcypher,descriptors\x7d]",
      "                         template values",
      "",
      "positional arguments:",
      "  template              Path to the DOT template",
      "  values                Path to a JSON file with the values",
      "",
      "options:",
      "  -h, --help            show this help message and exit",
      "  --kind \x7bdot,graph,digraph\x7d",
      "                        How to wrap the template text (default: dot, i.e. as",
      "                        written)",
      "  --format \x7bcypher,descriptors\x7d",
      "                        Statement format (default: descriptors)"]
  | parse =>
    ["usage: graph-config parse [-h] [--kind \x7bdot,graph,digraph\x7d] template",
      "",
      "positional arguments:",
      "  template              Path to the DOT template",
      "",
      "options:",
      "  -h, --help            show this help message and exit",
      "  --kind \x7bdot,graph,digraph\x7d"]

def text (page : HelpPage) : String :=
  String.join (page.lines.map (· ++ "\n"))

end HelpPage

end DotBinding.CommandLine
