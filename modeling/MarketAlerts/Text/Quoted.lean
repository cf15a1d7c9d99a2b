import MarketAlerts.Text.Printable

/-!
Quoted text, as messages show a name: single quotes unless the text holds one and no double quote,
escapes for the quote, the backslash and every character without a visible form.
-/
namespace MarketAlerts.Text

def hexDigit (value : Nat) : Char :=
  if value < 10 then Char.ofNat (0x30 + value) else Char.ofNat (0x57 + value)

/-- The lowest `width` hexadecimal digits of a number. -/
def hex : (width : Nat) → (value : Nat) → List Char
  | 0, _ => []
  | width + 1, value => hex width (value / 16) ++ [hexDigit (value % 16)]

def quoteMark (text : List Char) : Char :=
  if text.contains '\x27' && !text.contains '"' then '"' else '\x27'

def escape (mark : Char) (c : Char) : List Char :=
  if c = mark || c = '\\' then ['\\', c]
  else if c = '\n' then ['\\', 'n']
  else if c = '\r' then ['\\', 'r']
  else if c = '\t' then ['\\', 't']
  else if isPrintable c then [c]
  else if c.toNat < 0x100 then '\\' :: 'x' :: hex 2 c.toNat
  else if c.toNat < 0x10000 then '\\' :: 'u' :: hex 4 c.toNat
  else '\\' :: 'U' :: hex 8 c.toNat

def quoted (text : String) : String :=
  let mark := quoteMark text.toList
  String.ofList (mark :: text.toList.flatMap (escape mark) ++ [mark])

end MarketAlerts.Text
