import StyleGate.Text.Class

/-!
Comments on one trimmed line.
-/

namespace StyleGate.Comment

/-- The line opens a line comment or a block comment. -/
def opens (s : Text) : Bool := "//".toList.isPrefixOf s || "/*".toList.isPrefixOf s

/-- The line documents what follows: it is a line comment or closes a block comment. -/
def documents (s : Text) : Bool := "//".toList.isPrefixOf s || "*/".toList.isSuffixOf s

end StyleGate.Comment
