import Colloquy.Value.Key

/-!
# Writing JSON text

Printable ASCII only: every other character is written by its UTF-16 code units as `\uXXXX` in small letters, save for
the five controls with a short escape. Items are separated by a comma and a space, keys and values by a colon and a
space, and entries keep their order.
-/

namespace Colloquy.Json

/-- A UTF-16 code unit as an escape. -/
def unitEscape (unit : Nat) : Text := "\\u" ++ Text.hex 4 unit

/-- A code point inside a JSON string. -/
def escapeChar (c : CodePoint) : Text :=
  if c = .char '"' then "\\\""
  else if c = .char '\\' then "\\\\"
  else if c = .char '\n' then "\\n"
  else if c = .char '\r' then "\\r"
  else if c = .char '\t' then "\\t"
  else if c = .char '\x08' then "\\b"
  else if c = .char '\x0c' then "\\f"
  else if 0x20 ≤ c.toNat ∧ c.toNat < 0x7F then [c]
  else if c.toNat < 0x10000 then unitEscape c.toNat
  else
    let n := c.toNat - 0x10000
    unitEscape (0xD800 + n / 0x400) ++ unitEscape (0xDC00 + n % 0x400)

/-- A JSON string. -/
def writeText (t : Text) : Text := "\"" ++ t.flatMap escapeChar ++ "\""

mutual

/-- The JSON text of a value. -/
def write : Value → Text
  | .null => "null"
  | .bool b => if b then "true" else "false"
  | .int n => Text.ofInt n
  | .float x => Text.ofChars (Decimal.Layout.json.render x)
  | .str s => writeText s
  | .list items => "[" ++ Value.commaSeparated (writeItems items) ++ "]"
  | .object entries => "\x7b" ++ Value.commaSeparated (writeEntries entries) ++ "\x7d"

def writeItems : List Value → List Text
  | [] => []
  | v :: vs => write v :: writeItems vs

def writeEntries : List (Text × Value) → List Text
  | [] => []
  | (k, v) :: es => (writeText k ++ ": " ++ write v) :: writeEntries es

end

/-- A key as the text that stands for it in JSON: its JSON text, but a text as it is. -/
def keyText : Key → Text
  | .text s => s
  | k => write k.toValue

/-- The JSON text of a mapping with keys of any sort. -/
def writeKeyed (es : Entries Key Value) : Text := write (.object (es.map fun e => (keyText e.1, e.2)))

end Colloquy.Json
