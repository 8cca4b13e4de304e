/-!
Arithmetic modulo a number.
-/
namespace DynamicRpc.Crypto

/-- The power of `base` modulo `m`, by repeated squaring. -/
def powMod (m base exponent : Nat) : Nat :=
  if exponent = 0 then 1 % m
  else
    let half := powMod m (base * base % m) (exponent / 2)
    if exponent % 2 = 1 then base * half % m else half
  termination_by exponent

/-- The inverse modulo a prime. -/
def invMod (p a : Nat) : Nat := powMod p a (p - 2)

example : invMod 7 3 = 5 := by decide +kernel

/-- The difference modulo `m` of two numbers below it. -/
def subMod (m a b : Nat) : Nat := (a + m - b) % m

/-- How many binary digits a number has. -/
def bitLength (n : Nat) : Nat := if n = 0 then 0 else n.log2 + 1

end DynamicRpc.Crypto
