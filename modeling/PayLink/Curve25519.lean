/-!
# Points of the signature curve

Signing keys are points of a curve over the integers modulo 2^255 − 19, written as 32 bytes that
hold one coordinate and a sign. Only some coordinates belong to a point, so whether bytes can be a
key is decided by whether a certain quotient is a square.
-/

namespace PayLink.Curve25519

/-- The modulus. -/
def modulus : Nat := Nat.pow 2 255 - 19

/-- `base ^ exponent` modulo the modulus, by squaring. -/
def power (base : Nat) (exponent : Nat) : Nat :=
  if exponent = 0 then 1
  else
    let half := power (base * base % modulus) (exponent / 2)
    if exponent % 2 = 1 then half * base % modulus else half
termination_by exponent
decreasing_by omega

/-- The coefficient of the curve, −121665 / 121666. -/
def coefficient : Nat :=
  37095705934669439343138083508754565189542113879843219016388785533085940283555

/-- The coefficient is the quotient that it stands for. -/
theorem coefficient_mul : (coefficient * 121666 + 121665) % modulus = 0 := by
  decide

/-- Whether a number is a square modulo the modulus. -/
def isSquare (n : Nat) : Bool :=
  n % modulus = 0 || power (n % modulus) ((modulus - 1) / 2) = 1

/-- The number of little-endian bytes. -/
def littleEndian (bs : List UInt8) : Nat :=
  bs.foldr (fun b n => b.toNat + 256 * n) 0

/-- Whether 32 bytes are a point: `(y² − 1) / (d y² + 1)` is a square, for the coordinate `y`
without the sign bit. A quotient is a square exactly if the product is. -/
def isPoint (bs : List UInt8) : Bool :=
  let y := littleEndian bs % Nat.pow 2 255 % modulus
  let u := y * y + (modulus - 1)
  let v := coefficient * (y * y) + 1
  isSquare (u % modulus * (v % modulus))

end PayLink.Curve25519
