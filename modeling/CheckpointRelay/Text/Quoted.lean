import CheckpointRelay.Bytes

/-!
# Quoted characters and strings

Two written forms. `character` quotes one character of an error message between apostrophes and shows unprintable ones
by number. `jsonLiteral` is the JSON string literal of a text: `"` and `\` are escaped, control characters are written
by letter or number, and every other character stands for itself.
-/

namespace CheckpointRelay.Text

/-- The lower-case hexadecimal digit of a number below sixteen. -/
def hexDigit (n : Nat) : Char :=
  if n < 10 then Char.ofNat (48 + n) else Char.ofNat (87 + n)

/-- The lower-case hexadecimal digits of a number, without leading zeros. -/
def hexDigits (n : Nat) : List Char :=
  if n < 16 then [hexDigit n] else hexDigits (n / 16) ++ [hexDigit (n % 16)]

/-- The characters up to U+00FF that are shown by number: controls, the no-break space and the soft hyphen. -/
def isUnprintable (c : Char) : Bool :=
  c.toNat < 0x20 || (0x7F ≤ c.toNat && c.toNat ≤ 0xA0) || c.toNat = 0xAD

/-- The inside of a quoted character. -/
def escaped (c : Char) : List Char :=
  if c = '\x00' then ['\\', '0']
  else if c = '\t' then ['\\', 't']
  else if c = '\r' then ['\\', 'r']
  else if c = '\n' then ['\\', 'n']
  else if c = '\'' then ['\\', '\'']
  else if c = '\\' then ['\\', '\\']
  else if isUnprintable c then ['\\', 'u', '\x7b'] ++ hexDigits c.toNat ++ ['\x7d']
  else [c]

/-- A character up to U+00FF between apostrophes. -/
def character (c : Char) : String :=
  String.ofList ('\'' :: escaped c ++ ['\''])

/-- One character inside a JSON string literal. -/
def jsonEscaped (c : Char) : List Char :=
  if c = '"' then ['\\', '"']
  else if c = '\\' then ['\\', '\\']
  else if c = '\x08' then ['\\', 'b']
  else if c = '\t' then ['\\', 't']
  else if c = '\n' then ['\\', 'n']
  else if c = '\x0c' then ['\\', 'f']
  else if c = '\r' then ['\\', 'r']
  else if c.toNat < 0x20 then ['\\', 'u', '0', '0', hexDigit (c.toNat / 16), hexDigit (c.toNat % 16)]
  else [c]

/-- The characters of the JSON string literal of a text. -/
def jsonLiteralChars (cs : List Char) : List Char :=
  '"' :: cs.flatMap jsonEscaped ++ ['"']

/-- The JSON string literal of a text. -/
def jsonLiteral (s : String) : String :=
  String.ofList (jsonLiteralChars s.toList)

end CheckpointRelay.Text
