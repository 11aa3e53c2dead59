/-!
The bundled configuration, which serves where no other is found and as the file to start from.
-/

namespace StyleGate.Config

/-- The name under which a configuration file is looked for. -/
def fileName : String := "sharpcheck.yaml"

def defaultText : String :=
  "# sharpcheck configuration
# Copy to ./sharpcheck.yaml (or run: sharpcheck --init) and edit.

version: \"1.0\"

# ANSI colors in the report
color: true

# DEBUG shows per-rule counts
log_level: INFO

rules:
  # Rule numbers (1-10) to skip, e.g. [4, 7]
  disabled: []
"

def defaultBytes : ByteArray := defaultText.toUTF8

end StyleGate.Config
