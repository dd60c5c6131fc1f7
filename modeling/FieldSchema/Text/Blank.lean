/-! White space, in the two senses that matter here: the characters that leave a document blank, and
the characters that may surround a number in a setting. -/
namespace FieldSchema.Blank

/-- The characters with the Unicode property White_Space. -/
def isWhiteSpace (c : Char) : Bool :=
  let n := c.toNat
  (0x09 ≤ n && n ≤ 0x0d) || n == 0x20 || n == 0x85 || n == 0xa0 || n == 0x1680 ||
    (0x2000 ≤ n && n ≤ 0x200a) || n == 0x2028 || n == 0x2029 || n == 0x202f || n == 0x205f ||
    n == 0x3000

/-- White space, or one of the four information separators. -/
def isBlank (c : Char) : Bool :=
  isWhiteSpace c || (0x1c ≤ c.toNat && c.toNat ≤ 0x1f)

variable {α : Type}

def trimEnd (p : α → Bool) (s : List α) : List α := (s.reverse.dropWhile p).reverse

def trim (p : α → Bool) (s : List α) : List α := trimEnd p (s.dropWhile p)

end FieldSchema.Blank
