/-!
# Modular arithmetic

* `power`: powers modulo a number, by squaring.
* `inverse`: inverses modulo a prime.
-/

namespace WorkloadAuth.Crypto

/-- The power `base ^ exponent` modulo `modulus`, times `acc`. -/
def powerAux (modulus base exponent acc : Nat) : Nat :=
  if exponent = 0 then acc % modulus
  else
    powerAux modulus (base * base % modulus) (exponent / 2)
      (if exponent % 2 = 1 then acc * base % modulus else acc)
termination_by exponent
decreasing_by omega

/-- The power `base ^ exponent` modulo `modulus`. -/
def power (modulus base exponent : Nat) : Nat := powerAux modulus (base % modulus) exponent 1

/-- The inverse of a number modulo a prime, by Fermat's little theorem. -/
def inverse (prime n : Nat) : Nat := power prime n (prime - 2)

end WorkloadAuth.Crypto
