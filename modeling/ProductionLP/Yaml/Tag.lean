import ProductionLP.Yaml.Cursor
import ProductionLP.Text.Utf8

/- Names, tags and directives.

   An anchor names a node and an alias stands for a named node. A tag says what kind of node
   follows; its handle is a short form that a directive may define. -/
namespace ProductionLP.Yaml

open Text (decodeUtf8)

/-- The characters that may stand behind a name. -/
def endsName (c : Char) : Bool :=
  isWhite c || c = '?' || c = ':' || c = ',' || c = ']' || c = '\x7d' || c = '%' || c = '@'
    || c = Char.ofNat 0x60

/-- The name of an anchor or an alias. -/
def readName (c : Cursor) : Except Fault (String × Cursor) :=
  let (name, c) := c.span isNameChar
  if !name.isEmpty && c.atEndOr endsName 0 then .ok (String.ofList name, c) else .error .document

/-- The characters of a tag. -/
def isTagChar (c : Char) : Bool :=
  isNameChar c || ";/?:@&=+$,.!~*'()[]%".toList.contains c

/-- Octets written as a percent sign and two digits each. -/
def escapedOctets : Nat → Cursor → Except Fault (List UInt8 × Cursor)
  | 0, c => .ok ([], c)
  | fuel + 1, c =>
    if c.isAt (· == '%') then do
      let (octet, c) ← readHex 2 c.forward
      let (more, c) ← escapedOctets fuel c
      return (octet.toUInt8 :: more, c)
    else .ok ([], c)

/-- The characters of a tag, escapes decoded. -/
def tagChars : Nat → Cursor → Except Fault (List Char × Cursor)
  | 0, c => .ok ([], c)
  | fuel + 1, c =>
    match c.peek 0 with
    | none => .ok ([], c)
    | some ch =>
      if ch = '%' then do
        let (octets, c) ← escapedOctets (c.rest.length + 1) c
        let piece ← (decodeUtf8 octets).mapError fun _ => Fault.document
        let (more, c) ← tagChars fuel c
        return (piece ++ more, c)
      else if isTagChar ch then do
        let (more, c) ← tagChars fuel c.forward
        return (ch :: more, c)
      else .ok ([], c)

/-- The name that a tag or the meaning of a handle spells, which must not be empty. -/
def readTagName (c : Cursor) : Except Fault (String × Cursor) := do
  let (name, c) ← tagChars (c.rest.length + 1) c
  if name.isEmpty then throw .document else return (String.ofList name, c)

/-- A handle: an exclamation mark alone, or a name between two of them. -/
def readHandle (c : Cursor) : Except Fault (String × Cursor) :=
  if !c.isAt (· == '!') then .error .document
  else
    let c := c.forward
    if c.isAt (· == ' ') then .ok ("!", c)
    else
      let (name, c) := c.span isNameChar
      if c.isAt (· == '!') then .ok ("!" ++ String.ofList name ++ "!", c.forward)
      else .error .document

/-- A blank or a line end that is no tab. -/
def isTagEnd (c : Char) : Bool := c = ' ' || isBreak c

/-- A further exclamation mark comes before the next blank. -/
def hasHandle (c : Cursor) : Bool :=
  (c.forward.rest.takeWhile fun ch => !isTagEnd ch).contains '!'

/-- The handle of a tag, if it has one, and what follows it. -/
def readTag (c : Cursor) : Except Fault ((Option String × String) × Cursor) := do
  let (tag, c) ←
    if c.peek 1 == some '<' then do
      let (name, c) ← readTagName (c.skip 2)
      if c.isAt (· == '>') then pure ((none, name), c.forward) else throw .document
    else if c.atEndOr isWhite 1 then pure ((none, "!"), c.forward)
    else do
      let (handle, c) ← if hasHandle c then readHandle c else pure ("!", c.forward)
      let (name, c) ← readTagName c
      pure ((some handle, name), c)
  if c.atEndOr isTagEnd 0 then return (tag, c) else throw .document

/-- A line that tells how the document is to be read. -/
inductive Directive where
  | version (major minor : Nat)
  /-- A handle and what it stands for. -/
  | handle (name meaning : String)
  /-- A line that has no effect. -/
  | reserved
  deriving Repr, DecidableEq

/-- Digits as a number. -/
def readDigits (c : Cursor) : Except Fault (Nat × Cursor) :=
  let (ds, c) := c.span fun ch => '0' ≤ ch && ch ≤ '9'
  if ds.isEmpty then .error .document
  else .ok (ds.foldl (fun n d => 10 * n + (d.toNat - 48)) 0, c)

/-- The two numbers of a version. -/
def readVersion (c : Cursor) : Except Fault (Directive × Cursor) := do
  let (major, c) ← readDigits c
  if !c.isAt (· == '.') then throw .document
  let (minor, c) ← readDigits c.forward
  return (.version major minor, c)

/-- A handle and its meaning. -/
def readMeaning (c : Cursor) : Except Fault (Directive × Cursor) := do
  let (name, c) ← readHandle c
  if !c.isAt (· == ' ') then throw .document
  let (meaning, c) ← readTagName (c.skipWhile (· == ' '))
  return (.handle name meaning, c)

/-- The directive behind a percent sign, up to the end of its line. -/
def readDirective (c : Cursor) : Except Fault (Directive × Cursor) := do
  let (name, c) := c.span isNameChar
  if name.isEmpty || !c.atEndOr isTagEnd 0 then throw .document
  let word := String.ofList name
  let (directive, c) ←
    if word = "YAML" then do readVersion (c.skipWhile (· == ' '))
    else if word = "TAG" then do readMeaning (c.skipWhile (· == ' '))
    else pure (.reserved, c.skipWhile fun ch => !isBreak ch)
  if !c.atEndOr isTagEnd 0 then throw .document
  return (directive, ← c.endLine)

end ProductionLP.Yaml
