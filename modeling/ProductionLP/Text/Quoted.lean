import ProductionLP.Text.Digit
import ProductionLP.Text.Printable

/- Quoted texts.

   Messages quote a text between single quotes, or between double quotes when it holds a
   single quote and no double one. The backslash, the quote in use, line ends and tabs are
   escaped by a backslash, and hidden characters by their code point in hexadecimal. Raw
   octets are quoted alike behind the letter `b`. -/
namespace ProductionLP.Text

/-- The single quote. -/
def singleQuote : Char := Char.ofNat 39

/-- The quote that encloses a text. -/
def quoteFor (s : List Char) : Char :=
  if s.contains singleQuote && !s.contains '"' then '"' else singleQuote

/-- A hidden code point in hexadecimal. -/
def hiddenCode (code : Nat) : List Char :=
  if code < 0x100 then '\\' :: 'x' :: hex 2 code
  else if code < 0x10000 then '\\' :: 'u' :: hex 4 code
  else '\\' :: 'U' :: hex 8 code

/-- How one character is written between the quotes `q`. -/
def quotedChar (q c : Char) : List Char :=
  if c = q ∨ c = '\\' then ['\\', c]
  else if c = '\n' then ['\\', 'n']
  else if c = '\r' then ['\\', 'r']
  else if c = '\t' then ['\\', 't']
  else if isPrintable c then [c]
  else hiddenCode (codeOf c)

/-- The quoted form of a text. -/
def quoted (s : List Char) : List Char :=
  let q := quoteFor s
  q :: s.flatMap (quotedChar q) ++ [q]

/-- Quoting as a function on strings. -/
def quotedString (s : String) : String := String.ofList (quoted s.toList)

/-- How the character of one octet is written between the quotes `q`. -/
def quotedOctet (q c : Char) : List Char :=
  if c.toNat < 0x7F then quotedChar q c else hiddenCode c.toNat

/-- The quoted form of raw octets. -/
def quotedOctets (octets : List UInt8) : List Char :=
  let cs := octets.map fun b => Char.ofNat b.toNat
  let q := quoteFor cs
  'b' :: q :: cs.flatMap (quotedOctet q) ++ [q]

end ProductionLP.Text
