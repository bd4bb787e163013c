import ClusterGraph.Text.Ranges

/-!
# White space

The Unicode property White_Space: spaces, tabs, line and paragraph separators of every script.
-/

namespace ClusterGraph.Text

/-- The ranges of White_Space. -/
def whiteSpaceRanges : Ranges := [
    (0x9, 0xD), (0x20, 0x20), (0x85, 0x85), (0xA0, 0xA0), (0x1680, 0x1680), (0x2000, 0x200A),
    (0x2028, 0x2029), (0x202F, 0x202F), (0x205F, 0x205F), (0x3000, 0x3000)]

/-- Whether a character is white space. -/
def isWhiteSpace (c : Char) : Bool := whiteSpaceRanges.contains c

end ClusterGraph.Text
