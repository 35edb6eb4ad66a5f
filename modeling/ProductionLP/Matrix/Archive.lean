import ProductionLP.Matrix.Entry

/- Archives.

   A file that begins like an archive is looked at as one. An archive ends with a record that
   tells how long the directory before it is, perhaps with a comment behind it; the directory
   has an entry for every file. -/
namespace ProductionLP.Matrix.Archive

/-- The marks that an archive may begin with. -/
def fileMark : List UInt8 := [0x50, 0x4B, 3, 4]
def endMark : List UInt8 := [0x50, 0x4B, 5, 6]

/-- The mark of an entry of the directory. -/
def entryMark : List UInt8 := [0x50, 0x4B, 1, 2]

/-- Whether octets begin like an archive. -/
def isClaimed (octets : List UInt8) : Bool :=
  fileMark.isPrefixOf octets || endMark.isPrefixOf octets

/-- The lengths of the record at the end and of an entry of the directory. -/
def endSize : Nat := 22
def entrySize : Nat := 46

/-- The longest comment. -/
def longestComment : Nat := 65536

/-- The number in some octets from a place on. -/
def numberAt (octets : List UInt8) (place size : Nat) : Nat :=
  number ((octets.drop place).take size)

/-- The last place where the mark of the end stands, `place` being that of the first octet. -/
def lastEnd (place : Nat) : List UInt8 → Option Nat
  | [] => none
  | b :: rest =>
    match lastEnd (place + 1) rest with
    | some found => some found
    | none => if endMark.isPrefixOf (b :: rest) then some place else none

/-- The place of the record at the end. -/
def endPlace? (octets : List UInt8) : Option Nat :=
  if octets.length < endSize then none
  else
    let last := octets.length - endSize
    let tail := octets.drop last
    if endMark.isPrefixOf tail && numberAt tail 20 2 = 0 then some last
    else
      let start := last - longestComment
      (lastEnd start (octets.drop start)).filter fun place => place + endSize ≤ octets.length

/-- Whether the fields that follow the name of an entry fill the space they are given. -/
def hasFields : Nat → List UInt8 → Bool
  | 0, _ => true
  | fuel + 1, octets =>
    if octets.length < 4 then true
    else
      let size := numberAt octets 2 2 + 4
      size ≤ octets.length && hasFields fuel (octets.drop size)

/-- Whether a directory consists of entries. -/
def isDirectory : Nat → List UInt8 → Bool
  | 0, _ => false
  | fuel + 1, octets =>
    if octets.isEmpty then true
    else
      let name := numberAt octets 28 2
      let fields := numberAt octets 30 2
      let comment := numberAt octets 32 2
      entryMark.isPrefixOf octets && entrySize ≤ octets.length
        && hasFields fields ((octets.drop (entrySize + name)).take fields)
        && isDirectory fuel (octets.drop (entrySize + name + fields + comment))

/-- Whether octets are an archive. -/
def isArchive (octets : List UInt8) : Bool :=
  match endPlace? octets with
  | none => false
  | some place =>
    let size := numberAt octets (place + 12) 4
    size ≤ place
      && isDirectory (octets.length + 1) ((octets.drop (place - size)).take size)

end ProductionLP.Matrix.Archive
