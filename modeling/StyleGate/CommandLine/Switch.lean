import StyleGate.Text.Class

/-!
The switches of the command line and their names.
-/

namespace StyleGate.CommandLine

inductive Switch where
  | help
  | version
  | config
  | noColour
  | showRules
  | validate
  | init
  deriving DecidableEq, Repr

namespace Switch

/-- Every name, in the order in which abbreviations list them. -/
def names : List (Text × Switch) :=
  [("-h".toList, .help), ("--help".toList, .help), ("--version".toList, .version),
    ("-v".toList, .version), ("--config".toList, .config), ("-c".toList, .config),
    ("--no-color".toList, .noColour), ("--show".toList, .showRules), ("--validate".toList, .validate),
    ("--init".toList, .init)]

def ofName? (name : Text) : Option Switch := names.lookup name

/-- All names of a switch, as messages show them. -/
def label (s : Switch) : String :=
  "/".intercalate ((names.filter fun (_, t) => t == s).map fun (name, _) => String.ofList name)

/-- Only the path of a configuration follows its switch. -/
def takesValue (s : Switch) : Bool := s == .config

end Switch

end StyleGate.CommandLine
