import Colloquy.Value
import Colloquy.Decimal.Layout
import Colloquy.Text.Class
import Colloquy.Text.Search

/-!
# The text of a value

Two written forms. The plain text of a value shows a text as it is (`Value.plain`); inside lists and objects, and
where a value is quoted, texts stand between quotes with escapes (`Value.quoted`). The author's form, which messages
and prompts are made of, writes truth values in small letters and the items of a list on lines of their own
(`Value.shown`). Every value has both, however many digits an integer has and however deep a list is nested; a program with
limits on what it writes refuses some of them.
-/

namespace Colloquy

namespace Text

/-- A hexadecimal digit in small letters. -/
def hexDigit (n : Nat) : CodePoint := .char (Nat.digitChar n)

/-- `n` in `width` lower-case hexadecimal digits. -/
def hex : Nat → Nat → Text
  | 0, _ => []
  | width + 1, n => hex width (n / 16) ++ [hexDigit (n % 16)]

/-- A code point inside a quoted text: the quote and the backslash escaped, what cannot be shown by its code. -/
def quoteChar (quote : Char) (c : CodePoint) : Text :=
  if c = .char quote || c = .char '\\' then [.char '\\', c]
  else if c = .char '\n' then "\\n"
  else if c = .char '\r' then "\\r"
  else if c = .char '\t' then "\\t"
  else if isPrintable c then [c]
  else if c.toNat < 0x100 then "\\x" ++ hex 2 c.toNat
  else if c.toNat < 0x10000 then "\\u" ++ hex 4 c.toNat
  else "\\U" ++ hex 8 c.toNat

/-- A text between single quotes; between double quotes when it has a single one and no double one. -/
def quoted (t : Text) : Text :=
  let quote := if t.contains (.char '\'') && !t.contains (.char '"') then '"' else '\''
  .char quote :: (t.flatMap (quoteChar quote) ++ [.char quote])

end Text

namespace Value

/-- Parts with a comma and a space between neighbours. -/
def commaSeparated : List Text → Text
  | [] => []
  | [part] => part
  | part :: rest => part ++ ", " ++ commaSeparated rest

mutual

/-- A value as it stands inside other values, texts between quotes. -/
def quoted : Value → Text
  | null => "None"
  | bool b => if b then "True" else "False"
  | int n => Text.ofInt n
  | float x => Text.ofChars (Decimal.Layout.plain.render x)
  | str s => Text.quoted s
  | list items => "[" ++ commaSeparated (quotedItems items) ++ "]"
  | object entries => "\x7b" ++ commaSeparated (quotedEntries entries) ++ "\x7d"

def quotedItems : List Value → List Text
  | [] => []
  | v :: vs => quoted v :: quotedItems vs

def quotedEntries : List (Text × Value) → List Text
  | [] => []
  | (k, v) :: es => (Text.quoted k ++ ": " ++ quoted v) :: quotedEntries es

end

/-- A value by itself: a text as it is, all else as it stands inside other values. -/
def plain : Value → Text
  | str s => s
  | v => v.quoted

mutual

/-- A value as flow authors expect to see it. -/
def shown : Value → Text
  | bool b => if b then "true" else "false"
  | list items => Text.joinWith "\n" (shownItems items)
  | v => v.plain

def shownItems : List Value → List Text
  | [] => []
  | v :: vs => shown v :: shownItems vs

end

end Value

end Colloquy
