set_option autoImplicit false

namespace DottedSchema.Text

def isBlank (c : Char) : Bool :=
  let n := c.toNat
  (0x09 ≤ n && n ≤ 0x0d) || n == 0x20 || n == 0x85 || n == 0xa0 || n == 0x1680 || (0x2000 ≤ n && n ≤ 0x200a) ||
    n == 0x2028 || n == 0x2029 || n == 0x202f || n == 0x205f || n == 0x3000

def trim (text : List Char) : List Char := ((text.dropWhile isBlank).reverse.dropWhile isBlank).reverse

def escapeQuoted (c : Char) : List Char :=
  if c = '\\' ∨ c = '"' then ['\\', c] else [c]

def docstring (text : List Char) : List Char := (trim text).flatMap escapeQuoted

end DottedSchema.Text
