import ProductionLP.Fault

/- Blocks of numbers.

   A block is a list of entries read row after row, with a shape: the empty shape is a
   single number, `[k]` a vector, `[r, c]` a matrix, and so on. A program may be handed
   blocks of any shape; what it needs of them is checked when it is validated.

   Places and octets are counted by signed machine words, so an axis and an array have lengths
   that such a word holds; axes without entries do not count for the octets of an array. An
   array that is made anew also needs memory, and which requests are granted is up to the
   machine: `room` says it for every number of octets. -/
namespace ProductionLP

/-- The number of entries that a shape has room for. -/
def Block.volume : List Nat → Nat
  | [] => 1
  | length :: rest => length * Block.volume rest

/-- Numbers in reading order and the shape they fill. -/
structure Block (α : Type) where
  shape : List Nat
  entries : List α
  fits : entries.length = Block.volume shape

namespace Block

variable {α β : Type}

/-- A single number. -/
def scalar (a : α) : Block α := ⟨[], [a], rfl⟩

/-- A vector. -/
def vector (xs : List α) : Block α := ⟨[xs.length], xs, by simp [volume]⟩

/-- Rows of one width laid one after the other. -/
theorem length_flatten_of_width {rows : List (List α)} {width : Nat}
    (h : ∀ r ∈ rows, r.length = width) : rows.flatten.length = rows.length * width := by
  induction rows with
  | nil => simp
  | cons r rest ih =>
    have hr := h r (List.mem_cons_self ..)
    have hrest := ih fun x hx => h x (List.mem_cons_of_mem _ hx)
    simp only [List.flatten_cons, List.length_append, List.length_cons, hr, hrest]
    rw [Nat.add_mul, Nat.one_mul, Nat.add_comm]

/-- A matrix of the given width. -/
def matrix (rows : List (List α)) (width : Nat) (h : ∀ r ∈ rows, r.length = width) : Block α :=
  ⟨[rows.length, width], rows.flatten, by simp [volume, length_flatten_of_width h]⟩

/-- The number of axes. -/
def rank (b : Block α) : Nat := b.shape.length

/-- The number of entries. -/
def size (b : Block α) : Nat := b.entries.length

/-- Every entry through `f`. -/
def map (f : α → β) (b : Block α) : Block β := ⟨b.shape, b.entries.map f, by simp [b.fits]⟩

/-- `count` pieces of `size` entries each, from the front. -/
def pieces (size : Nat) : Nat → List α → List (List α)
  | 0, _ => []
  | count + 1, xs => xs.take size :: pieces size count (xs.drop size)

/-- Pieces have their size when the entries suffice. -/
theorem length_of_mem_pieces {size count : Nat} {xs : List α} (h : xs.length = count * size) :
    ∀ r ∈ pieces size count xs, r.length = size := by
  induction count generalizing xs with
  | zero => simp [pieces]
  | succ count ih =>
    rw [Nat.add_mul, Nat.one_mul] at h
    intro r hr
    rcases List.mem_cons.1 hr with rfl | hr
    · rw [List.length_take]
      omega
    · exact ih (by rw [List.length_drop]; omega) r hr

/-- A vector has as many entries as its axis is long. -/
theorem size_of_vector {b : Block α} {length : Nat} (hb : b.shape = [length]) :
    b.entries.length = length := by
  rw [b.fits, hb, volume, volume, Nat.mul_one]

/-- A matrix has an entry for every row and column. -/
theorem size_of_matrix {b : Block α} {height width : Nat} (hb : b.shape = [height, width]) :
    b.entries.length = height * width := by
  rw [b.fits, hb, volume, volume, volume, Nat.mul_one]

/-- The parts along the first axis, each with the remaining shape; a single number has none. -/
def parts? (b : Block α) : Option (List (List α) × List Nat) :=
  match b.shape with
  | [] => none
  | count :: rest => some (pieces (volume rest) count b.entries, rest)

/-- The first `count` parts along the first axis, as entries and shape. -/
def keep? (count : Nat) (b : Block α) : Option (List α × List Nat) :=
  b.parts?.map fun p => ((p.1.take count).flatten, (p.1.take count).length :: p.2)

/-- The entries as a vector, when the block is one. -/
def toVector? (b : Block α) : Option (List α) :=
  match b.shape with
  | [_] => some b.entries
  | _ => none

/-- The rows, when the block is a matrix. -/
def toRows? (b : Block α) : Option (List (List α)) :=
  match b.shape with
  | [count, width] => some (pieces width count b.entries)
  | _ => none

/-- Stretches entries of shape `src` to a shape of the same rank: an axis of length one is
    repeated, every other axis must have its length already. -/
def stretch : (src dst : List Nat) → List α → Option (List α)
  | [], [], xs => some xs
  | s :: src, d :: dst, xs =>
    if s = d then ((pieces (volume src) s xs).mapM (stretch src dst)).map List.flatten
    else if s = 1 then (stretch src dst xs).map fun ys => (List.replicate d ys).flatten
    else none
  | _, _, _ => none

/-- Leading axes of length one dropped while the rank is above `rank`. -/
def dropLeadingOnes (rank : Nat) : List Nat → List Nat
  | 1 :: rest => if rank < rest.length + 1 then dropLeadingOnes rank rest else 1 :: rest
  | shape => shape

/-- The entries that fill `dst` when the entries of shape `src` are assigned to it. -/
def spread (src dst : List Nat) (xs : List α) : Option (List α) :=
  let src := dropLeadingOnes dst.length src
  if dst.length < src.length then none
  else stretch (List.replicate (dst.length - src.length) 1 ++ src) dst xs

/-- The block spread over a shape. -/
def spreadTo (b : Block α) (dst : List Nat) : Option (List α) := spread b.shape dst b.entries

/-- The shape that two shapes of the same rank, last axis first, are both spread over. -/
def commonAxes : List Nat → List Nat → Option (List Nat)
  | [], t => some t
  | s, [] => some s
  | a :: s, b :: t =>
    if a = b ∨ b = 1 then (commonAxes s t).map (a :: ·)
    else if a = 1 then (commonAxes s t).map (b :: ·)
    else none

/-- The shape that two blocks are spread over when they are compared entry by entry. -/
def commonShape (s t : List Nat) : Option (List Nat) :=
  (commonAxes s.reverse t.reverse).map List.reverse

/-! Room. -/

/-- The end of the lengths that are counted. -/
def lengthEnd : Nat := Nat.pow 2 63

/-- The octets of a number. -/
def numberOctets : Nat := 8

/-- The octets that the axes with entries would take together. -/
def octetsOf (size : Nat) (shape : List Nat) : Nat := size * volume (shape.filter (· != 0))

/-- Whether an array of a shape, with entries of a size, can be described. -/
def checkShape (size : Nat) (shape : List Nat) : Except Fault Unit :=
  if shape.any (lengthEnd ≤ ·) then .error .longAxis
  else if lengthEnd ≤ octetsOf size shape then .error .hugeArray
  else .ok ()

/-- A machine that grants less than a tebioctet at once. -/
def usualRoom (octets : Nat) : Bool := octets < Nat.pow 2 40

/-- Whether a block of a shape can be made on a machine with this room. -/
def checkRoom (shape : List Nat) (room : Nat → Bool := usualRoom) : Except Fault Unit := do
  checkShape numberOctets shape
  if !room (numberOctets * volume shape) then throw .outOfMemory

end Block

end ProductionLP
