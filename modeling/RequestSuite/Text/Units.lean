/-! The 16-bit units of a text and the hash that is folded over them. -/
namespace RequestSuite.Text

def unitsOf (c : Char) : List Nat :=
  if c.toNat < 0x10000 then [c.toNat]
  else [0xD800 + (c.toNat - 0x10000) / 0x400, 0xDC00 + (c.toNat - 0x10000) % 0x400]

def units (text : String) : List Nat := text.toList.flatMap unitsOf

def unitHash (text : String) : Int :=
  let folded : Nat := (units text).foldl (fun hash unit => (31 * hash + unit) % 0x100000000) 0
  Int.bmod folded 0x100000000

end RequestSuite.Text
