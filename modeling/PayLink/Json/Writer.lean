import PayLink.Json.Value
/-!
# Writing JSON

Two layouts of one value: compact, without any blank, and spread, with one item or member a line
and two blanks for each level. Only what must be escaped is escaped.
-/

namespace PayLink.Json.Writer

/-- The escape of a control character that has no letter of its own. -/
def controlEscape (c : Char) : List Char :=
  ['\\', 'u', '0', '0', Nat.digitChar (c.toNat / 16), Nat.digitChar (c.toNat % 16)]

/-- One character of a string. -/
def stringChar (c : Char) : List Char :=
  match c with
  | '"' => ['\\', '"']
  | '\\' => ['\\', '\\']
  | '\x08' => ['\\', 'b']
  | '\x0c' => ['\\', 'f']
  | '\n' => ['\\', 'n']
  | '\r' => ['\\', 'r']
  | '\t' => ['\\', 't']
  | c => if c.toNat < 0x20 then controlEscape c else [c]

/-- A string with its quotes. A string that denotes no text is written as if it were empty. -/
def string (s : Option String) : List Char :=
  '"' :: (s.getD "").toList.flatMap stringChar ++ ['"']

/-- An integer. -/
def integer : Int → List Char
  | .ofNat n => Nat.toDigits 10 n
  | .negSucc n => '-' :: Nat.toDigits 10 (n + 1)

/-- A number. Only integers are ever written by this library; another number is written with an
exponent, and one that JSON cannot write is null. -/
def number : Number → List Char
  | .integer n => integer n
  | .real m e => integer m ++ 'e' :: integer e
  | .unbounded => ['n', 'u', 'l', 'l']

/-- The pieces, with `gap` between each and the next. -/
def joined (gap : List Char) : List (List Char) → List Char
  | [] => []
  | [p] => p
  | p :: ps => p ++ gap ++ joined gap ps

mutual

/-- A value without blanks. -/
def compact : Value → List Char
  | .null => ['n', 'u', 'l', 'l']
  | .bool true => ['t', 'r', 'u', 'e']
  | .bool false => ['f', 'a', 'l', 's', 'e']
  | .number n => number n
  | .string s => string s
  | .array vs => '[' :: joined [','] (compactItems vs) ++ [']']
  | .object ms => '{' :: joined [','] (compactMembers ms) ++ ['}']

/-- The items of an array. -/
def compactItems : List Value → List (List Char)
  | [] => []
  | v :: vs => compact v :: compactItems vs

/-- The members of an object. -/
def compactMembers : List (Option String × Value) → List (List Char)
  | [] => []
  | (k, v) :: ms => (string k ++ ':' :: compact v) :: compactMembers ms

end

/-- The start of a line at a level. -/
def line (level : Nat) : List Char :=
  '\n' :: List.replicate (2 * level) ' '

/-- Pieces between brackets, one on each line; nothing stands between the brackets of no pieces. -/
def block (level : Nat) (opening closing : Char) (pieces : List (List Char)) : List Char :=
  if pieces.isEmpty then [opening, closing]
  else opening :: line (level + 1) ++ joined (',' :: line (level + 1)) pieces
    ++ line level ++ [closing]

mutual

/-- A value spread over lines, at a level. -/
def spread (level : Nat) : Value → List Char
  | .array vs => block level '[' ']' (spreadItems (level + 1) vs)
  | .object ms => block level '{' '}' (spreadMembers (level + 1) ms)
  | .null => ['n', 'u', 'l', 'l']
  | .bool true => ['t', 'r', 'u', 'e']
  | .bool false => ['f', 'a', 'l', 's', 'e']
  | .number n => number n
  | .string s => string s

/-- The items of an array, at a level. -/
def spreadItems (level : Nat) : List Value → List (List Char)
  | [] => []
  | v :: vs => spread level v :: spreadItems level vs

/-- The members of an object, at a level. -/
def spreadMembers (level : Nat) : List (Option String × Value) → List (List Char)
  | [] => []
  | (k, v) :: ms => (string k ++ ':' :: ' ' :: spread level v) :: spreadMembers level ms

end

end PayLink.Json.Writer

namespace PayLink.Json

/-- A value as a text without blanks. -/
def Value.compact (v : Value) : String :=
  String.ofList (Writer.compact v)

/-- A value as a text of several lines. -/
def Value.spread (v : Value) : String :=
  String.ofList (Writer.spread 0 v)

end PayLink.Json
