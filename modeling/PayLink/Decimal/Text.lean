/-!
# Scaled decimal text

The text of an integer counted in units of the `places`-th decimal place: the whole part, and after
a point the fractional digits without trailing zeros. There is no point if no fractional digit is
left.
-/

namespace PayLink.Decimal

/-- The digits of `n`, with zeros in front so that there are more than `places` of them. -/
def padded (n places : Nat) : List Char :=
  List.leftpad (places + 1) '0' (Nat.toDigits 10 n)

/-- Digits without the zeros at their end. -/
def trimZeros (ds : List Char) : List Char :=
  (ds.reverse.dropWhile (· = '0')).reverse

/-- A whole part and a fraction, with a point between them if there is a fraction. -/
def pointed (whole fraction : List Char) : List Char :=
  if fraction.isEmpty then whole else whole ++ '.' :: fraction

/-- The text of `n / 10 ^ places`. -/
def scaledText (n places : Nat) : List Char :=
  let ds := padded n places
  let cut := ds.length - places
  pointed (ds.take cut) (trimZeros (ds.drop cut))

/-- The text of `v / 10 ^ places`, with a minus sign exactly if it is negative. -/
def signedText (v : Int) (places : Nat) : List Char :=
  if v < 0 then '-' :: scaledText v.natAbs places else scaledText v.natAbs places

end PayLink.Decimal
