import StyleGate.CommandLine.Word

/-!
The texts that the command line prints about itself.
-/

namespace StyleGate.CommandLine

def usage : String :=
  "usage: sharpcheck [-h] [--version] [--config CONFIG] [--no-color] [--show]
                  [--validate] [--init]
                  [path]
"

def help : String :=
  usage ++ "
sharpcheck - heuristic style and quality checks for a C# source file

positional arguments:
  path                  C# file (.cs) to analyze

options:
  -h, --help            show this help message and exit
  --version, -v         show program's version number and exit
  --config CONFIG, -c CONFIG
                        Path to sharpcheck.yaml
  --no-color            Disable ANSI colors
  --show                Show enabled rules
  --validate            Validate config and exit
  --init                Initialize sharpcheck.yaml

Examples:
  sharpcheck Program.cs       Analyze a file
  sharpcheck                  Prompt for the file path
  sharpcheck --show           Show the rule catalog
  sharpcheck --init           Create sharpcheck.yaml
  sharpcheck --validate       Validate the config file
        \n"

def version : String := "sharpcheck 1.0.0\n"

/-- The usage and what is wrong. -/
def rejection (c : Complaint) : String := usage ++ "sharpcheck: error: " ++ c.message ++ "\n"

end StyleGate.CommandLine
