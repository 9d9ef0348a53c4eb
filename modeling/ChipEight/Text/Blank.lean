/-
# Blank characters

Two classes of white space: the six characters that surround a number in plain
text (`isAsciiBlank`), and all code points that separate words (`isBlank`).
-/

namespace ChipEight.Text

/-- Tab, line feed, vertical tab, form feed, carriage return or space. -/
def isAsciiBlank (c : Char) : Bool :=
  c = ' ' || (9 ≤ c.toNat && c.toNat ≤ 13)

/-- A code point that separates words. -/
def isBlank (c : Char) : Bool :=
  isAsciiBlank c || (0x1C ≤ c.toNat && c.toNat ≤ 0x1F) || (0x2000 ≤ c.toNat && c.toNat ≤ 0x200A)
    || [0x85, 0xA0, 0x1680, 0x2028, 0x2029, 0x202F, 0x205F, 0x3000].contains c.toNat

end ChipEight.Text
