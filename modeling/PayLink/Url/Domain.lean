import PayLink.Unicode.Direction
import PayLink.Unicode.Fate
import PayLink.Unicode.Joining
import PayLink.Url.Punycode
/-!
# Domain names

A domain name is a row of labels with dots between them. A label beyond ASCII has an ASCII form,
which a mark begins that says so; a label that is given in this form must be the form of a label.
The ASCII form of a name is built from a text whose characters are replaced and composed first, and
every label is checked as it reads, not as it is written.
-/

namespace PayLink.Url.Domain

open PayLink.Unicode

/-- The ASCII characters that no domain name has. -/
def isForbidden (c : Char) : Bool :=
  c.toNat ≤ 0x20 || c.toNat = 0x7F || "%#/:<>?@[\\]^|".toList.contains c

/-- Whether a character is one of ASCII. -/
def isAscii (c : Char) : Bool :=
  c.toNat < 0x80

/-- What begins the ASCII form of a label beyond ASCII. -/
def asciiMark : List Char :=
  "xn--".toList

/-- A label of a domain name. -/
structure Label where
  /-- Its ASCII form. -/
  ascii : List Char
  /-- How it reads. -/
  text : List Char
  deriving DecidableEq, Repr

/-- The longest label beyond ASCII. -/
def longestText : Nat := 1000

/-- The longest text behind the mark of an ASCII form. -/
def longestMarked : Nat := 2000

/-- The label that a text without dots writes. -/
def Label.ofText? (cs : List Char) : Option Label :=
  match List.isPrefixOf? asciiMark cs with
  | some marked =>
    if cs.all isAscii ∧ marked.length ≤ longestMarked then do
      let text ← Punycode.decode? marked
      if text.all isAscii then none else some ⟨cs, text⟩
    else none
  | none =>
    some ⟨if cs.all isAscii then cs else asciiMark ++ Punycode.encode cs, cs⟩

/-- Whether a label may stand in a name: its characters stay as they are, no mark begins it, and
joiners stand where they belong. -/
def Label.isValid (l : Label) : Bool :=
  l.text.all (fun c => fate c = .kept)
    && composed l.text = l.text
    && l.text.head?.all (fun c => !isMark c)
    && joinersFit [] l.text
    && (l.text.all isAscii || l.text.length ≤ longestText)

/-- The labels of a text whose characters are replaced and composed. -/
def labels? (cs : List Char) : Option (List Label) :=
  (cs.splitOn '.').mapM Label.ofText?

/-- The ASCII form of a domain name. -/
def toAscii? (cs : List Char) : Option (List Char) := do
  let cs := composed (← mapped? cs)
  if cs.any isForbidden then none
  else
    let labels ← labels? cs
    if labels.all Label.isValid ∧ haveDirections (labels.map Label.text) then
      some (List.intercalate ['.'] (labels.map Label.ascii))
    else none

end PayLink.Url.Domain
