import Vigil.Text.Numeral

/-!
# JSON values and their compact text

`Json` holds the values that are written: numbers are natural, members keep their order.
`Json.render` writes a value without blanks. Inside a text a quotation mark, a backslash and the
control characters below `U+0020` are escaped, and nothing else is.
-/

namespace Vigil

/-- A JSON value to be written. -/
inductive Json where
  | null
  | bool (b : Bool)
  | number (n : Nat)
  | text (s : String)
  | array (items : List Json)
  | object (members : List (String × Json))
  deriving Inhabited

namespace Json

/-- The escape of a character inside a text, or the character itself. -/
def escape (c : Char) : List Char :=
  match c with
  | '"' => ['\\', '"']
  | '\\' => ['\\', '\\']
  | '\x08' => ['\\', 'b']
  | '\x0c' => ['\\', 'f']
  | '\n' => ['\\', 'n']
  | '\r' => ['\\', 'r']
  | '\t' => ['\\', 't']
  | c =>
    if c.toNat < 0x20 then
      ['\\', 'u', '0', '0', Text.hexDigit (c.toNat / 16), Text.hexDigit (c.toNat % 16)]
    else [c]

/-- A text in quotation marks. -/
def quote (s : String) : List Char :=
  '"' :: s.toList.flatMap escape ++ ['"']

mutual

/-- The characters of a value's compact text. -/
def chars : Json → List Char
  | null => ['n', 'u', 'l', 'l']
  | bool true => ['t', 'r', 'u', 'e']
  | bool false => ['f', 'a', 'l', 's', 'e']
  | number n => Nat.toDigits 10 n
  | text s => quote s
  | array items => '[' :: itemChars items ++ [']']
  | object members => '\x7b' :: memberChars members ++ ['\x7d']

/-- The characters of the items of an array, with commas between them. -/
def itemChars : List Json → List Char
  | [] => []
  | [v] => chars v
  | v :: w :: rest => chars v ++ ',' :: itemChars (w :: rest)

/-- The characters of the members of an object, with commas between them. -/
def memberChars : List (String × Json) → List Char
  | [] => []
  | [(k, v)] => quote k ++ ':' :: chars v
  | (k, v) :: m :: rest => quote k ++ ':' :: chars v ++ ',' :: memberChars (m :: rest)

end

/-- The compact text of a value. -/
def render (v : Json) : String :=
  String.ofList v.chars

/-- The members of an object whose values are present. -/
def present (members : List (String × Option Json)) : Json :=
  object (members.filterMap fun (k, v) => v.map (k, ·))

end Json

end Vigil
