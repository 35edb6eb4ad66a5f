import ProductionLP.Matrix.Literal

/- Layouts of entries.

   A layout says how the octets of one entry of a binary matrix are read. It is named by a
   letter with a size, or by a word; an order of octets may stand before it. Several layouts
   between commas, or a list of named fields, make a record, and a layout with a shape makes a
   small array of its own. -/
namespace ProductionLP.Matrix

/-- A unit of time. -/
inductive TimeUnit where
  | year
  | month
  | week
  | day
  /-- A unit below a day, with its number in a day; one finer than a millionth of a second has
      none. -/
  | clock (perDay : Option Nat)
  /-- No unit. -/
  | generic
  deriving Repr, DecidableEq

/-- What a single entry is. -/
inductive Leaf where
  | flag
  | signed (size : Nat)
  | unsigned (size : Nat)
  | float (size : Nat)
  /-- A complex number of two floats; `size` is that of both. -/
  | complex (size : Nat)
  /-- Octets without the zeros that fill them up. -/
  | octets (size : Nat)
  | text (characters : Nat)
  /-- Octets as they are. -/
  | raw (size : Nat)
  | date (unit : TimeUnit) (count : Nat)
  | duration (unit : TimeUnit) (count : Nat)
  /-- What only the program that wrote it can read. -/
  | foreign
  deriving Repr, DecidableEq

/-- The number of octets of a single entry. -/
def Leaf.size : Leaf → Nat
  | .flag => 1
  | .signed s => s
  | .unsigned s => s
  | .float s => s
  | .complex s => s
  | .octets n => n
  | .text n => 4 * n
  | .raw n => n
  | .date _ _ => 8
  | .duration _ _ => 8
  | .foreign => 8

/-- How an entry is laid out. -/
inductive Layout where
  | leaf (bigEndian : Bool) (l : Leaf)
  | grid (shape : List Nat) (item : Layout)
  /-- Fields at their places, in a number of octets. -/
  | record (size : Nat) (fields : List (Nat × Layout))

namespace Layout

/-- The number of octets of an entry. -/
def size : Layout → Nat
  | .leaf _ l => l.size
  | .grid shape item => Block.volume shape * item.size
  | .record size _ => size

mutual

/-- Whether a part of an entry cannot be read. -/
def isForeign : Layout → Bool
  | .leaf _ l => l == .foreign
  | .grid _ item => isForeign item
  | .record _ fields => anyForeign fields

/-- Whether a part of one of the fields cannot be read. -/
def anyForeign : List (Nat × Layout) → Bool
  | [] => false
  | (_, l) :: rest => isForeign l || anyForeign rest

end

/-! Names of layouts. -/

/-- The layouts that one letter names. -/
def letters : List (Char × Leaf) := [('?', .flag), ('b', .signed 1), ('B', .unsigned 1),
  ('h', .signed 2), ('H', .unsigned 2), ('i', .signed 4), ('I', .unsigned 4), ('l', .signed 8),
  ('L', .unsigned 8), ('q', .signed 8), ('Q', .unsigned 8), ('n', .signed 8),
  ('N', .unsigned 8), ('p', .signed 8), ('P', .unsigned 8), ('e', .float 2), ('f', .float 4),
  ('d', .float 8), ('g', .float 16), ('F', .complex 8), ('D', .complex 16), ('G', .complex 32),
  ('S', .octets 0), ('a', .octets 0), ('c', .octets 1), ('U', .text 0), ('V', .raw 0),
  ('M', .date .generic 1), ('m', .duration .generic 1), ('O', .foreign), ('T', .foreign)]

/-- The layouts that words name. -/
def words : List (String × Leaf) := [("bool", .flag), ("bool_", .flag), ("int8", .signed 1),
  ("byte", .signed 1), ("uint8", .unsigned 1), ("ubyte", .unsigned 1), ("int16", .signed 2),
  ("short", .signed 2), ("uint16", .unsigned 2), ("ushort", .unsigned 2), ("int32", .signed 4),
  ("intc", .signed 4), ("uint32", .unsigned 4), ("uintc", .unsigned 4), ("int64", .signed 8),
  ("int", .signed 8), ("int_", .signed 8), ("long", .signed 8), ("longlong", .signed 8),
  ("intp", .signed 8), ("uint64", .unsigned 8), ("uint", .unsigned 8), ("ulong", .unsigned 8),
  ("ulonglong", .unsigned 8), ("uintp", .unsigned 8), ("float16", .float 2), ("half", .float 2),
  ("float32", .float 4), ("single", .float 4), ("float64", .float 8), ("double", .float 8),
  ("float", .float 8), ("longdouble", .float 16), ("float128", .float 16),
  ("complex64", .complex 8), ("csingle", .complex 8), ("complex128", .complex 16),
  ("cdouble", .complex 16), ("complex", .complex 16), ("clongdouble", .complex 32),
  ("complex256", .complex 32), ("bytes", .octets 0), ("bytes_", .octets 0), ("str", .text 0),
  ("str_", .text 0), ("unicode", .text 0), ("void", .raw 0), ("object", .foreign),
  ("object_", .foreign)]

/-- The most octets of an entry. -/
def mostOctets : Nat := 2147483647

/-- The layout that a letter and a size name. -/
def sized? (letter : Char) (n : Nat) : Option Leaf :=
  if letter = 'S' ∨ letter = 'a' then some (.octets n)
  else if letter = 'U' then if 4 * n ≤ mostOctets then some (.text n) else none
  else if letter = 'V' then some (.raw n)
  else if letter = 'b' ∧ n = 1 then some .flag
  else if letter = 'i' ∧ [1, 2, 4, 8].contains n then some (.signed n)
  else if letter = 'u' ∧ [1, 2, 4, 8].contains n then some (.unsigned n)
  else if letter = 'f' ∧ [2, 4, 8, 16].contains n then some (.float n)
  else if letter = 'c' ∧ [8, 16, 32].contains n then some (.complex n)
  else if letter = 'O' ∧ [4, 8].contains n then some .foreign
  else none

/-- A size behind a letter: blanks and a sign may stand before its digits. -/
def sizeOf? (s : List Char) : Option Nat :=
  let digits := match s.dropWhile fun c => c = ' ' || (9 ≤ c.toNat && c.toNat ≤ 13) with
    | '+' :: rest => rest
    | rest => rest
  let n := (Literal.digitsIn 10 digits).toNat
  if !digits.isEmpty && digits.all Word.isDigit && n ≤ mostOctets then some n else none

/-! Dates. -/

/-- The units of time by their names. -/
def units : List (String × TimeUnit) := [("Y", .year), ("M", .month), ("W", .week), ("D", .day),
  ("h", .clock (some 24)), ("m", .clock (some 1440)), ("s", .clock (some 86400)),
  ("ms", .clock (some 86400000)), ("us", .clock (some 86400000000)), ("ns", .clock none),
  ("ps", .clock none), ("fs", .clock none), ("as", .clock none), ("generic", .generic)]

/-- The unit between brackets behind the name of a date, with the number of them that one step
    is; without brackets there is no unit. -/
def unitOf? (s : List Char) : Option (TimeUnit × Nat) :=
  match s with
  | [] => some (.generic, 1)
  | '[' :: rest =>
    if rest.getLast? = some ']' then
      let inside := rest.dropLast
      let digits := inside.takeWhile Word.isDigit
      let count := if digits.isEmpty then 1 else (Literal.digitsIn 10 digits).toNat
      if count = 0 then none
      else (units.lookup (String.ofList (inside.drop digits.length))).map fun u => (u, count)
    else none
  | _ => none

/-- The date or the duration that a word names. -/
def dated? (s : List Char) : Option Leaf :=
  let behind (name : String) : Option (List Char) :=
    if name.toList.isPrefixOf s then some (s.drop name.length) else none
  match (behind "M8").or (behind "datetime64"), (behind "m8").or (behind "timedelta64") with
  | some rest, _ => (unitOf? rest).map fun u => .date u.1 u.2
  | none, some rest => (unitOf? rest).map fun u => .duration u.1 u.2
  | none, none => none

/-! Texts. -/

/-- A sign of an order of octets. -/
def isOrder (c : Char) : Bool := c = '<' || c = '>' || c = '|' || c = '='

/-- Whether a text lists layouts: it begins with a number, or commas stand outside of square
    brackets. -/
def isListing (s : List Char) : Bool :=
  let body := match s with
    | c :: rest => if isOrder c then rest else s
    | [] => s
  let outside := s.foldl (fun (p : Int × Bool) c =>
    if c = '[' then (p.1 + 1, p.2) else if c = ']' then (p.1 - 1, p.2)
    else (p.1, p.2 || (c = ',' && p.1 = 0))) (0, false)
  (body.head?.map Word.isDigit).getD false || body.take 2 == ['(', ')'] || outside.2

/-- The layout that a text without commas names. -/
def ofWord? (s : List Char) : Option Layout :=
  let (order, body) := match s with
    | c :: rest => if isOrder c then (c, rest) else ('=', s)
    | [] => ('=', s)
  let leaf := match body with
    | [] => none
    | [c] => letters.lookup c
    | c :: rest =>
      match dated? body with
      | some l => some l
      | none =>
        match sizeOf? rest with
        | some n => sized? c n
        | none => if s = body then words.lookup (String.ofList s) else none
  leaf.map (.leaf (order = '>'))

/-- A layout of no size of its own with a size. -/
def withSize? (l : Layout) (n : Nat) : Option Layout :=
  match l with
  | .leaf b (.octets 0) => some (.leaf b (.octets n))
  | .leaf b (.text 0) => some (.leaf b (.text n))
  | .leaf b (.raw 0) => some (.leaf b (.raw n))
  | _ => none

/-- The length of an axis that a value gives. -/
def axis? : Value → Option Nat
  | .int n => if 0 ≤ n ∧ n.natAbs ≤ mostOctets then some n.natAbs else none
  | _ => none

/-- A layout that is not too large. -/
def fitting? (l : Layout) : Option Layout := if l.size ≤ mostOctets then some l else none

/-- A layout with a shape; a single one and no axes at all change nothing, and a layout
    without a size takes the number as its size. -/
def withShape? (l : Layout) (shape : Value) : Option Layout := do
  match shape with
  | .int _ =>
    let n ← axis? shape
    match withSize? l n with
    | some l => return l
    | none => if n = 1 then return l else fitting? (.grid [n] l)
  | v =>
    let axes ← (← v.items.toOption).mapM axis?
    if (withSize? l 0).isSome then none
    else if axes.isEmpty then return l
    else fitting? (.grid axes l)

/-- The valid layout, if there is one. -/
def orInvalid (l : Option Layout) : Except Fault Layout :=
  match l with
  | some l => .ok l
  | none => .error .wrongKind

/-- Fields one behind the other. -/
def packed (layouts : List Layout) : Layout :=
  let placed := layouts.foldl (fun (p : Nat × List (Nat × Layout)) l =>
    (p.1 + l.size, p.2 ++ [(p.1, l)])) (0, [])
  .record placed.1 placed.2

/-- The leading characters of a class, at most one, and the others. -/
def takeOne (p : Char → Bool) (s : List Char) : List Char × List Char :=
  let taken := (s.take 1).takeWhile p
  (taken, s.drop taken.length)

/-- An item of a listing: the signs of its order, its shape, its name, and what follows it. -/
def listed (s : List Char) : (List Char × List Char) × List Char × List Char × List Char :=
  let isSpace (c : Char) : Bool := c = ' '
  let (first, s) := takeOne isOrder s
  let blanks := s.takeWhile isSpace
  let (opening, behind) := takeOne (· == '(') (s.drop blanks.length)
  let axes := behind.takeWhile fun c => c = ' ' || c = ',' || Word.isDigit c
  let (closing, behind) := takeOne (· == ')') (behind.drop axes.length)
  let more := behind.takeWhile isSpace
  let (second, s) := takeOne isOrder (behind.drop more.length)
  let name := s.takeWhile fun c => c.isAlphanum || c = '.' || c = '?'
  let s := s.drop name.length
  let inner := match s with
    | '[' :: rest =>
      let unit := rest.takeWhile fun c => c.isAlphanum || c = ',' || c = '.'
      if (rest.drop unit.length).head? = some ']' then '[' :: unit ++ [']'] else []
    | _ => []
  ((first, second), blanks ++ opening ++ axes ++ closing ++ more, name ++ inner,
    s.drop inner.length)

/-- The order that two signs agree on: only "most significant first" is kept. -/
def orderOf? (first second : List Char) : Option (List Char) :=
  let plain (o : List Char) : List Char := if o = ['='] then ['<'] else o
  let kept (o : List Char) : List Char := if o = ['>'] then o else []
  if second.isEmpty then some (kept first)
  else if first.isEmpty then some (kept second)
  else if plain first = plain second then some (kept first)
  else none

/-- The layout of an item of a listing. -/
def ofListed (first second shape name : List Char) : Except Fault Layout := do
  match orderOf? first second with
  | none => throw .wrongKind
  | some order =>
    if shape.isEmpty then orInvalid (ofWord? (order ++ name))
    else
      match Literal.ofText? shape with
      | none => throw .brokenShape
      | some v =>
        let v ← v
        match ofWord? (order ++ name) with
        | none => throw .wrongKind
        | some l => orInvalid (withShape? l v)

/-- The layouts that a text lists, and whether commas stand between them. -/
def ofListing : Nat → List Char → Except Fault (List Layout × Bool)
  | 0, _ => .error .wrongKind
  | _ + 1, [] => .ok ([], false)
  | fuel + 1, s => do
    let ((first, second), shape, name, rest) := listed s
    let behind := rest.dropWhile Text.isBlank
    if behind.isEmpty then return ([← ofListed first second shape name], false)
    else if behind.head? ≠ some ',' then throw .wrongKind
    else
      let (more, _) ← ofListing fuel (behind.tail.dropWhile Text.isBlank)
      return ((← ofListed first second shape name) :: more, true)

/-- The layout that a text names. -/
def ofText (s : List Char) : Except Fault Layout := do
  if isListing s then
    match ← ofListing (s.length + 1) s with
    | (ls, true) => return packed ls
    | ([l], false) => return l
    | _ => throw .wrongKind
  else orInvalid (ofWord? s)

/-! Descriptions. -/

/-- The name of a field; a title may stand before it. -/
def fieldName? : Value → Option String
  | .text s => some s
  | .tuple [_, .text s] => some s
  | _ => none

/-- Octets between fields: they have no name and no parts that have one. -/
def isPadding (name : Value) (l : Layout) : Bool :=
  match name, l with
  | .text "", .leaf _ (.raw _) => true
  | .text "", .grid _ _ => true
  | _, _ => false

/-- The record of named fields one behind the other; every name occurs once. -/
def recordOf (fields : List (Value × Layout)) : Except Fault Layout := do
  let kept := fields.filter fun f => !isPadding f.1 f.2
  match kept.mapM fun f => fieldName? f.1 with
  | none => throw .wrongKind
  | some names =>
    if names.eraseDups.length ≠ names.length then throw .wrongKind
    let placed := fields.foldl (fun (p : Nat × List (Nat × Layout)) f =>
      (p.1 + f.2.size, if isPadding f.1 f.2 then p.2 else p.2 ++ [(p.1, f.2)])) (0, [])
    return .record placed.1 placed.2

/-- The layout that a value describes: a text names it, a pair gives it a shape, and any other
    collection lists fields. -/
def ofValue : Nat → Value → Except Fault Layout
  | 0, _ => .error .wrongKind
  | _ + 1, .text s => ofText s.toList
  | _ + 1, .tuple [] => .error .outOfRange
  | fuel + 1, .tuple [d] => do
    let _ ← ofValue fuel d
    throw .outOfRange
  | fuel + 1, .tuple (d :: shape :: _) => do orInvalid (withShape? (← ofValue fuel d) shape)
  | fuel + 1, v => do
    let fields ← (← v.items).mapM fun field => do
      match ← field.items with
      | [name, d] => return (name, ← ofValue fuel d)
      | [name, d, shape] => return (name, ← orInvalid (withShape? (← ofValue fuel d) shape))
      | _ => throw .wrongKind
    recordOf fields

end Layout

end ProductionLP.Matrix
