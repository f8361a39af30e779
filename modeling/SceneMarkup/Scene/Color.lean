import SceneMarkup.Numeric.Arithmetic

/-!
# Colors

* `Color`: red, green, blue and alpha, each from zero to one;
* `Color.bytes`, `Color.hex`: the channels as bytes, and as hexadecimal digits;
* `Color.luminance`: how bright a color is.
-/

namespace SceneMarkup.Scene

/-- A color whose channels go from zero to one. -/
structure Color where
  red : Single
  green : Single
  blue : Single
  alpha : Single := 1
  deriving DecidableEq

namespace Color

/-- A channel as a byte; a half rounds up. -/
def byte (channel : Single) : Nat :=
  ((channel.clamp 0 1 * 255).roundHalfAway.truncate 0 255).toNat

/-- Red, green and blue as bytes. -/
def bytes (c : Color) : List Nat := [byte c.red, byte c.green, byte c.blue]

/-- A hexadecimal digit, in upper case. -/
def hexDigit (n : Nat) : Char :=
  if n < 10 then Char.ofNat ('0'.toNat + n) else Char.ofNat ('A'.toNat + (n - 10))

/-- A byte as two hexadecimal digits. -/
def hexByte (n : Nat) : List Char := [hexDigit (n / 16), hexDigit (n % 16)]

/-- The color without its alpha, in hexadecimal digits. -/
def hex (c : Color) : String := String.ofList ('#' :: c.bytes.flatMap hexByte)

/-- The luminance, by the weights of the three channels. -/
def luminance (c : Color) : Single := 0.2126 * c.red + 0.7152 * c.green + 0.0722 * c.blue

end Color

end SceneMarkup.Scene
