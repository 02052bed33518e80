import ClusterGraph.Text.CodePoint
import ClusterGraph.Text.Printable

namespace ClusterGraph.Text

/-! Quoted text, as messages show a string: between single quotes, or between double quotes when
that saves escaping, with every character that has no mark written as an escape. -/

def hexDigit (value : Nat) : Char :=
  Char.ofNat (if value < 10 then 0x30 + value else 0x57 + value)

/-- The lowest `width` hexadecimal digits of a number, highest first. -/
def hexDigits : Nat → Nat → List Char
  | 0, _ => []
  | width + 1, value => hexDigits width (value / 16) ++ [hexDigit (value % 16)]

/-- Double quotes serve exactly when the text has single quotes and no double ones. -/
def quoteFor (text : List CodePoint) : Char :=
  if text.contains (.char '\'') && !text.contains (.char '"') then '"' else '\''

/-- The escape of a code point, as short as its number allows. -/
def numberEscape (code : Nat) : List Char :=
  if code < 0x100 then '\\' :: 'x' :: hexDigits 2 code
  else if code < 0x10000 then '\\' :: 'u' :: hexDigits 4 code
  else '\\' :: 'U' :: hexDigits 8 code

def quoteChar (quote c : Char) : List Char :=
  if c == quote || c == '\\' then ['\\', c]
  else if c == '\n' then ['\\', 'n']
  else if c == '\r' then ['\\', 'r']
  else if c == '\t' then ['\\', 't']
  else if isPrintable c then [c]
  else numberEscape c.toNat

def quotePoint (quote : Char) : CodePoint → List Char
  | .char c => quoteChar quote c
  | .half unit => numberEscape unit

def quotedPoints (text : List CodePoint) : List Char :=
  let quote := quoteFor text
  quote :: text.flatMap (quotePoint quote) ++ [quote]

def quoted (text : String) : String :=
  String.ofList (quotedPoints (CodePoint.ofString text))

end ClusterGraph.Text
