import DisplayEnv.Text.Hex

/-!
# Colors

A color (`Color`) is 32 bits: alpha, red, green and blue, eight bits each, alpha in the highest. Its
text is `#rrggbb` when it is fully opaque and `#aarrggbb` otherwise. Of a native color only `r`, `g`
and `b` are used.
-/

namespace DisplayEnv

/-- A color descriptor. All 32 bits count towards its identity. -/
structure Color where
  argb : UInt32
  deriving DecidableEq, Repr, Hashable

namespace Color

/-- The channel that starts `shift` bits up. -/
def channel (c : Color) (shift : UInt32) : UInt8 := (c.argb >>> shift).toUInt8

def a (c : Color) : UInt8 := c.channel 24
def r (c : Color) : UInt8 := c.channel 16
def g (c : Color) : UInt8 := c.channel 8
def b (c : Color) : UInt8 := c.channel 0

/-- The opaque color with the given channels (`rgb`). -/
def rgb (r g b : UInt8) : Color :=
  ⟨(0xff000000 : UInt32) ||| (r.toUInt32 <<< 16) ||| (g.toUInt32 <<< 8) ||| b.toUInt32⟩

def black : Color := rgb 0 0 0
def white : Color := rgb 255 255 255

instance : Inhabited Color := ⟨⟨0⟩⟩

/-- `#rrggbb`, or `#aarrggbb` for a color that is not fully opaque. -/
def text (c : Color) : String :=
  if c.a = 255 then "#" ++ Hex.fixed 6 (c.argb.toNat % 0x1000000)
  else "#" ++ Hex.fixed 8 c.argb.toNat

/-- All 32 bits, for a reader of the program's state. -/
def debugText (c : Color) : String := "Color(#" ++ Hex.fixed 8 c.argb.toNat ++ ")"

end Color

end DisplayEnv
