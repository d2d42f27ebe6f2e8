namespace RpcBindings.Text

/-- Half of a surrogate pair. It is no character, so one of the last private plane stands for it. -/
def half (code : Nat) : Char := Char.ofNat (code + 0x102000)

/-- The code of the half that a character stands for. -/
def halfCode? (c : Char) : Option Nat := if 0x10f800 ≤ c.toNat then some (c.toNat - 0x102000) else none

def isHalfCode (code : Nat) : Bool := decide (0xd800 ≤ code ∧ code < 0xe000)

/-- The character with a code, or what stands for the half with it. -/
def charOf? (code : Nat) : Option Char :=
  if isHalfCode code then some (half code)
  else if h : code.isValidChar then some (Char.ofNatAux code h)
  else none

end RpcBindings.Text
