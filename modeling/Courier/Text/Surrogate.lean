/-!
Text escapes can name code points that are halves of a surrogate pair and no characters. They are kept as characters
of the private area of plane 16 that end in the same four digits, so that text with such an escape is still text, and
differs from every text without one.
-/

namespace Courier.Text

/-- The first of the characters that stand for a half of a surrogate pair. -/
def surrogateBase : Nat := 0x10D800

/-- A code point of an escape as a character. -/
def charOfEscape (code : Nat) : Char :=
  if 0xD800 ≤ code && code < 0xE000 then Char.ofNat (surrogateBase + (code - 0xD800)) else Char.ofNat code

/-- The surrogate code point that a character stands for, if any. -/
def surrogateOf? (c : Char) : Option Nat :=
  if surrogateBase ≤ c.toNat && c.toNat < surrogateBase + 0x800 then some (0xD800 + (c.toNat - surrogateBase))
  else none

/-- The character of a surrogate pair. -/
def joinSurrogates (high low : Nat) : Char :=
  Char.ofNat (0x10000 + (high - 0xD800) * 0x400 + (low - 0xDC00))

/-- The two halves of a character beyond the basic plane. -/
def splitSurrogates (c : Char) : Nat × Nat :=
  let rest := c.toNat - 0x10000
  (0xD800 + rest / 0x400, 0xDC00 + rest % 0x400)

end Courier.Text

