import CallScript.Text.Printable

/-! Text between quotes. Single quotes are used unless the text holds a single quote and no double one;
the quote in use and the backslash are escaped, so are line feed, carriage return and tab, and every
character that does not print is written by its code point. -/
namespace CallScript.Text

def hexDigits (n : Nat) : List Char :=
  Nat.toDigits 16 n

def padStart (width : Nat) (c : Char) (cs : List Char) : List Char :=
  List.replicate (width - cs.length) c ++ cs

def codeEscape (code : Nat) : List Char :=
  if code < 0x100 then '\\' :: 'x' :: padStart 2 '0' (hexDigits code)
  else if code < 0x10000 then '\\' :: 'u' :: padStart 4 '0' (hexDigits code)
  else '\\' :: 'U' :: padStart 8 '0' (hexDigits code)

def escapeChar (quote c : Char) : List Char :=
  if c == quote || c == '\\' then ['\\', c]
  else if c == '\n' then ['\\', 'n']
  else if c == '\r' then ['\\', 'r']
  else if c == '\t' then ['\\', 't']
  else if isPrintable c then [c]
  else codeEscape c.toNat

def quoteFor (cs : List Char) : Char :=
  if cs.contains '\x27' && !cs.contains '"' then '"' else '\x27'

def quotedChars (cs : List Char) : List Char :=
  let quote := quoteFor cs
  quote :: cs.flatMap (escapeChar quote) ++ [quote]

def quoted (s : String) : String :=
  String.ofList (quotedChars s.toList)

end CallScript.Text
