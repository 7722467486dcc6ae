namespace BenchmarkOrchestration

/-!
# White space and trimming

Output of commands and functors is trimmed of white space at both ends.  White space is the
Unicode property of that name, 25 characters in all, and not only the blanks of ASCII.
-/

/-- The ranges of characters with the property `White_Space`, in ascending order. -/
def blankRanges : List (Nat × Nat) :=
  [ (0x0009, 0x000D), (0x0020, 0x0020), (0x0085, 0x0085), (0x00A0, 0x00A0),
    (0x1680, 0x1680), (0x2000, 0x200A), (0x2028, 0x2029), (0x202F, 0x202F),
    (0x205F, 0x205F), (0x3000, 0x3000) ]

/-- Whether a character is white space. -/
def isBlank
    (c : Char) :
    Bool :=
  blankRanges.any fun (low, high) => low ≤ c.toNat && c.toNat ≤ high

/-- Remove the white space at both ends of a list of characters. -/
def trimBlank
    (text : List Char) :
    List Char :=
  ((text.dropWhile isBlank).reverse.dropWhile isBlank).reverse

/-- Remove the white space at both ends of a text. -/
def trimText
    (text : String) :
    String :=
  String.ofList (trimBlank text.toList)

end BenchmarkOrchestration
