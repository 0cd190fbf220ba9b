import InstanceCatalog.Text.Quoted

/-! # JSON

Values are written over several lines, each level two spaces further in, and in ASCII alone. -/

namespace InstanceCatalog

inductive JsonValue where
  | null
  | bool (b : Bool)
  /-- A number by the characters that write it. -/
  | number (token : String)
  | string (s : String)
  | array (items : List JsonValue)
  | object (members : List (String × JsonValue))

namespace JsonValue

open Text

/-- Four hexadecimal digits after a mark. -/
def unit (n : Nat) : List Char := '\\' :: 'u' :: Quoted.hex 4 n

/-- A character as it stands in a string: two units if it needs them. -/
def escape (c : Char) : List Char :=
  if c = '"' ∨ c = '\\' then ['\\', c]
  else if c = '\n' then ['\\', 'n']
  else if c = '\r' then ['\\', 'r']
  else if c = '\t' then ['\\', 't']
  else if c = '\x08' then ['\\', 'b']
  else if c = '\x0c' then ['\\', 'f']
  else if ' ' ≤ c ∧ c ≤ '~' then [c]
  else if c.toNat < 0x10000 then unit c.toNat
  else
    let n := c.toNat - 0x10000
    unit (0xD800 + n / 0x400) ++ unit (0xDC00 + n % 0x400)

def quote (s : String) : List Char := '"' :: s.toList.flatMap escape ++ ['"']

/-- A new line at a depth. -/
def newLine (depth : Nat) : List Char := '\n' :: List.replicate (2 * depth) ' '

mutual

def write (depth : Nat) : JsonValue → List Char
  | null => "null".toList
  | bool b => if b then "true".toList else "false".toList
  | number token => token.toList
  | string s => quote s
  | array [] => ['[', ']']
  | array (v :: vs) =>
    '[' :: newLine (depth + 1) ++ write (depth + 1) v ++ writeItems (depth + 1) vs
      ++ newLine depth ++ [']']
  | object [] => ['\x7b', '\x7d']
  | object ((k, v) :: ms) =>
    '\x7b' :: newLine (depth + 1) ++ quote k ++ [':', ' '] ++ write (depth + 1) v
      ++ writeMembers (depth + 1) ms ++ newLine depth ++ ['\x7d']

/-- The items after the first one. -/
def writeItems (depth : Nat) : List JsonValue → List Char
  | [] => []
  | v :: vs => ',' :: newLine depth ++ write depth v ++ writeItems depth vs

/-- The members after the first one. -/
def writeMembers (depth : Nat) : List (String × JsonValue) → List Char
  | [] => []
  | (k, v) :: ms =>
    ',' :: newLine depth ++ quote k ++ [':', ' '] ++ write depth v ++ writeMembers depth ms

end

/-- A value as a text. -/
def text (v : JsonValue) : String := String.ofList (write 0 v)

end JsonValue

end InstanceCatalog
