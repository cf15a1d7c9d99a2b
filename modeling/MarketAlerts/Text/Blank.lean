/-!
Blanks: the characters that Unicode calls white space. Numbers written as text may stand between
them.
-/
namespace MarketAlerts.Text

def isBlank (c : Char) : Bool :=
  let code := c.toNat
  (0x9 <= code && code <= 0xD) || (0x2000 <= code && code <= 0x200A)
    || [0x20, 0x85, 0xA0, 0x1680, 0x2028, 0x2029, 0x202F, 0x205F, 0x3000].contains code

/-- The text without the blanks at both ends. -/
def trim (text : List Char) : List Char :=
  ((text.dropWhile isBlank).reverse.dropWhile isBlank).reverse

end MarketAlerts.Text
