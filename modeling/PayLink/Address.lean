import PayLink.Base58
/-!
# Account addresses

An address is 32 bytes and travels as base58 text. Every address has one text: a text is accepted
only if it is the text of the address that it denotes, so two different texts never name one
account.
-/

namespace PayLink

/-- The number of bytes of an address. -/
def addressSize : Nat := 32

/-- The length of the longest base58 text of an address. -/
def addressTextMax : Nat := 44

/-- The name of an account on the ledger. -/
structure Address where
  /-- The bytes, most significant first. -/
  bytes : List UInt8
  /-- There are 32 of them. -/
  length_bytes : bytes.length = addressSize
  deriving DecidableEq

namespace Address

/-- Two addresses with the same bytes are the same address. -/
theorem eq_of_bytes {a b : Address} (h : a.bytes = b.bytes) : a = b := by
  cases a; cases b; simp_all

/-- The address of bytes; `none` unless there are 32. -/
def ofBytes? (bs : List UInt8) : Option Address :=
  if h : bs.length = addressSize then some ⟨bs, h⟩ else none

/-- The base58 text of an address. -/
def text (a : Address) : String :=
  String.ofList (Base58.encode a.bytes)

/-- Whether `a` stands before `b` in the order of their bytes, or is equal to it. -/
def le (a b : Address) : Bool :=
  decide (a.bytes ≤ b.bytes)

/-- Addresses in the order of their bytes. -/
def sort (as : List Address) : List Address :=
  as.mergeSort le

/-- The address that a text names; `none` unless the text is the base58 text of 32 bytes. -/
def ofText? (s : String) : Option Address := do
  if s.utf8ByteSize = 0 ∨ addressTextMax < s.utf8ByteSize then none
  let bs ← Base58.decode? s.toList
  let a ← ofBytes? bs
  if a.text = s then some a else none

/-- Whether a text names an address. -/
def isText (s : String) : Bool :=
  (ofText? s).isSome

end Address

end PayLink
