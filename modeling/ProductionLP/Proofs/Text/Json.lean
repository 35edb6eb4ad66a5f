import Mathlib.Data.List.Basic

/- JSON.

   The grammar of JSON over lists of characters: a document is one value between blanks, a
   number is a finite decimal literal, and a string holds no control character.

   To tell that a text is no document, its strings are passed over and the characters outside of
   them are looked at (`bare`). In a document all strings are closed, and none of the characters
   outside of them is a capital letter with which a number that is not finite would be written
   (`Derives.calm`). -/
namespace ProductionLP.Json

/-! ## Tokens -/

/-- Blanks between tokens. -/
def Blank (s : List Char) : Prop := ∀ c ∈ s, c = ' ' ∨ c = '\t' ∨ c = '\n' ∨ c = '\r'

theorem blank_nil : Blank [] := List.forall_mem_nil _

theorem blank_space : Blank [' '] := List.forall_mem_singleton.2 (.inl rfl)

/-- A whole number without a zero in front of it. -/
inductive IsWhole : List Char → Prop
  | zero : IsWhole ['0']
  | positive {c : Char} {s : List Char} (hc : c.isDigit) (hzero : c ≠ '0')
      (hs : ∀ a ∈ s, a.isDigit) : IsWhole (c :: s)

/-- One digit or more. -/
def IsDigits (s : List Char) : Prop := s ≠ [] ∧ ∀ c ∈ s, c.isDigit

theorem isDigits_zero : IsDigits ['0'] :=
  ⟨List.cons_ne_nil _ _, List.forall_mem_singleton.2 rfl⟩

/-- Digits behind a point, or nothing. -/
inductive IsFraction : List Char → Prop
  | none : IsFraction []
  | some {s : List Char} (h : IsDigits s) : IsFraction ('.' :: s)

/-- An exponent, with a sign or without one, or nothing. -/
inductive IsExponent : List Char → Prop
  | none : IsExponent []
  | unsigned {e : Char} {s : List Char} (he : e = 'e' ∨ e = 'E') (h : IsDigits s) :
      IsExponent (e :: s)
  | signed {e sign : Char} {s : List Char} (he : e = 'e' ∨ e = 'E')
      (hsign : sign = '+' ∨ sign = '-') (h : IsDigits s) : IsExponent (e :: sign :: s)

/-- A number without a sign. -/
inductive IsMagnitude : List Char → Prop
  | intro {w f x : List Char} (hw : IsWhole w) (hf : IsFraction f) (hx : IsExponent x) :
      IsMagnitude (w ++ f ++ x)

/-- A number. -/
inductive IsNumber : List Char → Prop
  | positive {s : List Char} (h : IsMagnitude s) : IsNumber s
  | negative {s : List Char} (h : IsMagnitude s) : IsNumber ('-' :: s)

theorem IsWhole.isMagnitude {w : List Char} (hw : IsWhole w) : IsMagnitude w := by
  simpa using IsMagnitude.intro hw .none .none

/-- A number with digits behind its point. -/
theorem IsWhole.isMagnitude_point {w s : List Char} (hw : IsWhole w) (hs : IsDigits s) :
    IsMagnitude (w ++ '.' :: s) := by
  simpa using IsMagnitude.intro hw (.some hs) .none

/-- A hexadecimal digit. -/
def IsHexDigit (c : Char) : Prop := c.isDigit ∨ 'a' ≤ c ∧ c ≤ 'f' ∨ 'A' ≤ c ∧ c ≤ 'F'

instance : DecidablePred IsHexDigit := fun _ => inferInstanceAs (Decidable (_ ∨ _))

/-- What stands for one character inside quotes, or for half of one. -/
inductive IsUnit : List Char → Prop
  | char {c : Char} (hcontrol : 0x20 ≤ c.toNat) (hquote : c ≠ '"') (hbackslash : c ≠ '\\') :
      IsUnit [c]
  | short {c : Char} (h : c ∈ ['"', '\\', '/', 'b', 'f', 'n', 'r', 't']) : IsUnit ['\\', c]
  | code {s : List Char} (hlength : s.length = 4) (h : ∀ c ∈ s, IsHexDigit c) :
      IsUnit ('\\' :: 'u' :: s)

/-- What may stand between quotes. -/
inductive IsInside : List Char → Prop
  | nil : IsInside []
  | cons {s t : List Char} (hs : IsUnit s) (ht : IsInside t) : IsInside (s ++ t)

theorem IsUnit.isInside {s : List Char} (h : IsUnit s) : IsInside s := by
  simpa using IsInside.cons h .nil

theorem IsInside.append {s t : List Char} (hs : IsInside s) (ht : IsInside t) :
    IsInside (s ++ t) := by
  induction hs with
  | nil => exact ht
  | cons hs _ ih =>
    rw [List.append_assoc]
    exact .cons hs ih

/-- A string. -/
inductive IsString : List Char → Prop
  | intro {s : List Char} (h : IsInside s) : IsString ('"' :: s ++ ['"'])

/-! ## Documents -/

/-- The parts of a document. An element is a value between blanks; elements and members are
    separated by commas. -/
inductive Part where
  | value
  | element
  | elements
  | member
  | members

/-- The texts of each part. -/
inductive Derives : Part → List Char → Prop
  | null : Derives .value "null".toList
  | bool (b : Bool) : Derives .value (if b then "true" else "false").toList
  | number {s : List Char} (h : IsNumber s) : Derives .value s
  | string {s : List Char} (h : IsString s) : Derives .value s
  | emptyArray {b : List Char} (hb : Blank b) : Derives .value ('[' :: b ++ [']'])
  | array {s : List Char} (h : Derives .elements s) : Derives .value ('[' :: s ++ [']'])
  | emptyObject {b : List Char} (hb : Blank b) : Derives .value ('\x7b' :: b ++ ['\x7d'])
  | object {s : List Char} (h : Derives .members s) : Derives .value ('\x7b' :: s ++ ['\x7d'])
  | element {b s b' : List Char} (hb : Blank b) (h : Derives .value s) (hb' : Blank b') :
      Derives .element (b ++ s ++ b')
  | lastElement {s : List Char} (h : Derives .element s) : Derives .elements s
  | elements {s t : List Char} (h : Derives .element s) (ht : Derives .elements t) :
      Derives .elements (s ++ ',' :: t)
  | member {b k b' s : List Char} (hb : Blank b) (hk : IsString k) (hb' : Blank b')
      (h : Derives .element s) : Derives .member (b ++ k ++ b' ++ ':' :: s)
  | lastMember {s : List Char} (h : Derives .member s) : Derives .members s
  | members {s t : List Char} (h : Derives .member s) (ht : Derives .members t) :
      Derives .members (s ++ ',' :: t)

/-- A document. -/
def IsDocument (s : List Char) : Prop := Derives .element s

/-! ## Texts without their strings -/

/-- Where a character stands. -/
inductive Place where
  | outside
  | inside
  /-- Behind a backslash inside of a string. -/
  | escape
  deriving DecidableEq

/-- Where the next character stands. -/
def Place.next : Place → Char → Place
  | .outside, c => if c = '"' then .inside else .outside
  | .inside, c => if c = '"' then .outside else if c = '\\' then .escape else .inside
  | .escape, _ => .inside

/-- Where the character behind a text stands. -/
def Place.after (p : Place) (s : List Char) : Place := s.foldl Place.next p

/-- The characters of a text that stand outside of its strings. -/
def bare : Place → List Char → List Char
  | _, [] => []
  | .outside, c :: s => c :: bare (Place.next .outside c) s
  | .inside, c :: s => bare (Place.next .inside c) s
  | .escape, c :: s => bare (Place.next .escape c) s

/-- The strings of a text are closed in it. -/
def IsClosed (s : List Char) : Prop := Place.after .outside s = .outside

/-- Capital letters that occur in no token but a string. -/
def IsCapital (c : Char) : Prop := c = 'I' ∨ c = 'N'

/-- A character that begins no string and is no such letter. -/
def IsSilent (c : Char) : Prop := c ≠ '"' ∧ ¬ IsCapital c

instance : DecidablePred IsCapital := fun _ => inferInstanceAs (Decidable (_ ∨ _))

instance : DecidablePred IsSilent := fun _ => inferInstanceAs (Decidable (_ ∧ _))

/-- No capital letter stands outside of the strings of a text. -/
def IsQuiet (s : List Char) : Prop := ∀ c ∈ bare .outside s, ¬ IsCapital c

instance : DecidablePred IsClosed := fun _ => inferInstanceAs (Decidable (_ = _))

instance : DecidablePred IsQuiet := fun _ => List.decidableBAll (¬ IsCapital ·) _

/-- A text with closed strings and no capital letter outside of them. -/
structure Calm (s : List Char) : Prop where
  closed : IsClosed s
  quiet : IsQuiet s

variable {s t : List Char} {c : Char} {p : Place} {part : Part}

@[simp] theorem Place.after_append : p.after (s ++ t) = (p.after s).after t := List.foldl_append

theorem bare_append : bare p (s ++ t) = bare p s ++ bare (p.after s) t := by
  induction s generalizing p with
  | nil => cases p <;> rfl
  | cons c s ih =>
    cases p with
    | outside => exact congrArg (c :: ·) ih
    | inside => exact ih
    | escape => exact ih

theorem IsClosed.append (hs : IsClosed s) (ht : IsClosed t) : IsClosed (s ++ t) := by
  rw [IsClosed, Place.after_append, hs, ht]

/-- Behind closed strings a text is read as it is read alone. -/
theorem IsClosed.isQuiet_append_iff (hs : IsClosed s) :
    IsQuiet (s ++ t) ↔ IsQuiet s ∧ IsQuiet t := by
  rw [IsQuiet, bare_append, hs]
  exact List.forall_mem_append

theorem Calm.append (hs : Calm s) (ht : Calm t) : Calm (s ++ t) :=
  ⟨hs.closed.append ht.closed, hs.closed.isQuiet_append_iff.2 ⟨hs.quiet, ht.quiet⟩⟩

/-! ### Tokens -/

theorem isClosed_of_ne_quote (h : ∀ c ∈ s, c ≠ '"') : IsClosed s ∧ bare .outside s = s := by
  induction s with
  | nil => exact ⟨rfl, rfl⟩
  | cons c s ih =>
    obtain ⟨hc, hs⟩ := List.forall_mem_cons.1 h
    obtain ⟨hclosed, hbare⟩ := ih hs
    have hnext : Place.next .outside c = .outside := if_neg hc
    refine ⟨?_, ?_⟩
    · rw [IsClosed, Place.after, List.foldl_cons, hnext]
      exact hclosed
    · rw [bare, hnext, hbare]

/-- A text without strings and capital letters. -/
theorem calm_of_forall (h : ∀ c ∈ s, IsSilent c) : Calm s := by
  obtain ⟨hclosed, hbare⟩ := isClosed_of_ne_quote fun c hc => (h c hc).1
  refine ⟨hclosed, fun c hc => ?_⟩
  rw [hbare] at hc
  exact (h c hc).2

theorem calm_of_all (h : s.all (IsSilent ·) = true) : Calm s :=
  calm_of_forall fun c hc => of_decide_eq_true (List.all_eq_true.1 h c hc)

theorem Calm.cons (hc : IsSilent c) (h : Calm s) : Calm (c :: s) :=
  (calm_of_forall (List.forall_mem_singleton.2 hc)).append h

/-- A text between brackets. -/
theorem Calm.enclose {e : Char} (h : Calm s) (hc : IsSilent c) (he : IsSilent e) :
    Calm (c :: s ++ [e]) :=
  (h.cons hc).append (calm_of_forall (List.forall_mem_singleton.2 he))

theorem Blank.calm (h : Blank s) : Calm s := calm_of_forall fun c hc => by
  rcases h c hc with rfl | rfl | rfl | rfl <;> decide

/-- The characters that numbers are written with. -/
def IsNumeric (c : Char) : Prop := c.isDigit ∨ c = '-' ∨ c = '+' ∨ c = '.' ∨ c = 'e' ∨ c = 'E'

instance : DecidablePred IsNumeric := fun _ => inferInstanceAs (Decidable (_ ∨ _))

theorem IsWhole.numeric (h : IsWhole s) : ∀ c ∈ s, IsNumeric c := by
  cases h with
  | zero => exact List.forall_mem_singleton.2 (.inl rfl)
  | positive hc _ hs => exact List.forall_mem_cons.2 ⟨.inl hc, fun a ha => .inl (hs a ha)⟩

theorem IsDigits.numeric (h : IsDigits s) : ∀ c ∈ s, IsNumeric c := fun c hc => .inl (h.2 c hc)

theorem IsFraction.numeric (h : IsFraction s) : ∀ c ∈ s, IsNumeric c := by
  cases h with
  | none => exact List.forall_mem_nil _
  | some h => exact List.forall_mem_cons.2 ⟨by simp [IsNumeric], h.numeric⟩

theorem IsExponent.numeric (h : IsExponent s) : ∀ c ∈ s, IsNumeric c := by
  cases h with
  | none => exact List.forall_mem_nil _
  | unsigned he h =>
    refine List.forall_mem_cons.2 ⟨?_, h.numeric⟩
    rcases he with rfl | rfl <;> simp [IsNumeric]
  | signed he hsign h =>
    refine List.forall_mem_cons.2 ⟨?_, List.forall_mem_cons.2 ⟨?_, h.numeric⟩⟩
    · rcases he with rfl | rfl <;> simp [IsNumeric]
    · rcases hsign with rfl | rfl <;> simp [IsNumeric]

theorem IsMagnitude.numeric (h : IsMagnitude s) : ∀ c ∈ s, IsNumeric c := by
  obtain ⟨hw, hf, hx⟩ := h
  exact List.forall_mem_append.2 ⟨List.forall_mem_append.2 ⟨hw.numeric, hf.numeric⟩, hx.numeric⟩

theorem IsNumber.numeric (h : IsNumber s) : ∀ c ∈ s, IsNumeric c := by
  cases h with
  | positive h => exact h.numeric
  | negative h => exact List.forall_mem_cons.2 ⟨by simp [IsNumeric], h.numeric⟩

theorem IsNumeric.isSilent (h : IsNumeric c) : IsSilent c := by
  refine ⟨?_, ?_⟩
  · rintro rfl
    exact absurd h (by decide)
  · rintro (rfl | rfl) <;> exact absurd h (by decide)

theorem IsNumber.calm (h : IsNumber s) : Calm s :=
  calm_of_forall fun c hc => (h.numeric c hc).isSilent

theorem IsHexDigit.ne (h : IsHexDigit c) : c ≠ '"' ∧ c ≠ '\\' := by
  refine ⟨?_, ?_⟩ <;> rintro rfl <;> exact absurd h (by decide)

/-- A character that neither ends a string nor escapes another. -/
theorem after_inside (h : ∀ c ∈ s, c ≠ '"' ∧ c ≠ '\\') :
    Place.after .inside s = .inside ∧ bare .inside s = [] := by
  induction s with
  | nil => exact ⟨rfl, rfl⟩
  | cons c s ih =>
    obtain ⟨⟨hquote, hbackslash⟩, hs⟩ := List.forall_mem_cons.1 h
    have hnext : Place.next .inside c = .inside := by
      rw [Place.next, if_neg hquote, if_neg hbackslash]
    rw [Place.after, List.foldl_cons, bare, hnext]
    exact ih hs

theorem IsUnit.after (h : IsUnit s) :
    Place.after .inside s = .inside ∧ bare .inside s = [] := by
  cases h with
  | char _ hquote hbackslash =>
    exact after_inside (List.forall_mem_singleton.2 ⟨hquote, hbackslash⟩)
  | short h => exact ⟨rfl, rfl⟩
  | code _ h =>
    -- the backslash and the letter behind it lead back inside
    have hdigits := after_inside fun c hc => (h c hc).ne
    exact hdigits

theorem IsInside.after (h : IsInside s) :
    Place.after .inside s = .inside ∧ bare .inside s = [] := by
  induction h with
  | nil => exact ⟨rfl, rfl⟩
  | cons hs _ ih =>
    rw [Place.after_append, bare_append, hs.after.1, hs.after.2]
    exact ih

/-- Of a string only the first quote is looked at. -/
theorem IsString.calm (h : IsString s) : Calm s := by
  obtain ⟨h⟩ := h
  refine ⟨?_, ?_⟩
  · show Place.after .inside (_ ++ ['"']) = .outside
    rw [Place.after_append, h.after.1]
    rfl
  · intro c hc
    change c ∈ '"' :: bare .inside (_ ++ ['"']) at hc
    rw [bare_append, h.after.1, h.after.2] at hc
    obtain rfl := List.mem_singleton.1 hc
    decide

/-! ### Documents -/

/-- Every part of a document has closed strings and no capital letter outside of them. -/
theorem Derives.calm (h : Derives part s) : Calm s := by
  induction h with
  | null => exact calm_of_all (by decide)
  | bool b => cases b <;> exact calm_of_all (by decide)
  | number h => exact h.calm
  | string h => exact h.calm
  | emptyArray hb => exact hb.calm.enclose (by decide) (by decide)
  | array _ ih => exact ih.enclose (by decide) (by decide)
  | emptyObject hb => exact hb.calm.enclose (by decide) (by decide)
  | object _ ih => exact ih.enclose (by decide) (by decide)
  | element hb _ hb' ih => exact (hb.calm.append ih).append hb'.calm
  | lastElement _ ih => exact ih
  | elements _ _ ih iht => exact ih.append (iht.cons (by decide))
  | member hb hk hb' _ ih =>
    exact ((hb.calm.append hk.calm).append hb'.calm).append (ih.cons (by decide))
  | lastMember _ ih => exact ih
  | members _ _ ih iht => exact ih.append (iht.cons (by decide))

end ProductionLP.Json
