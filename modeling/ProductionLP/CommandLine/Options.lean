import ProductionLP.Text.Quoted

/- Options of the command line.

   An option is named by its full name or by any beginning of it that no other option has;
   its value follows it or stands behind an equals sign. What begins with a dash but looks
   like a number or holds a blank is no option, and a double dash ends the options. All words
   are sorted into options and others before any option takes effect. -/
namespace ProductionLP.CommandLine

/-- An option. -/
inductive Switch where
  | help
  | config
  | out
  | showTableaus
  | verify
  deriving Repr, DecidableEq

/-- The spellings of the options. -/
def spellings : List (String × Switch) := [("-h", .help), ("--help", .help),
  ("--config", .config), ("--out", .out), ("--show-tableaus", .showTableaus),
  ("--verify", .verify)]

/-- The name of an option in messages. -/
def Switch.name : Switch → String
  | .help => "-h/--help"
  | .config => "--config"
  | .out => "--out"
  | .showTableaus => "--show-tableaus"
  | .verify => "--verify"

/-- Whether an option has a value. -/
def Switch.hasValue : Switch → Bool
  | .config => true
  | .out => true
  | _ => false

/-- A word of the command line. -/
inductive Word where
  /-- An option, with the value that is given to it by an equals sign. -/
  | option (s : Switch) (given : Option String)
  /-- The short spelling of the help with something given to it. -/
  | bunch (given : List Char)
  /-- What looks like an option and is none. -/
  | unknown
  | other
  deriving Repr, DecidableEq

/-- A word split at its first equals sign. -/
def splitEquals (cs : List Char) : List Char × Option String :=
  match cs.dropWhile (· != '=') with
  | [] => (cs, none)
  | _ :: rest => (cs.takeWhile (· != '='), some (String.ofList rest))

/-- A spelling with two dashes. -/
def isLong (cs : List Char) : Bool := cs.take 2 == ['-', '-']

/-- The spellings that a word can stand for, with what it then is. -/
def candidates (cs : List Char) : List (String × Word) :=
  if isLong cs then
    let (name, given) := splitEquals cs
    (spellings.filter fun e => name.isPrefixOf e.1.toList).map fun e => (e.1, .option e.2 given)
  else
    (spellings.filter fun e => e.1.toList == cs.take 2).map fun e => (e.1, .bunch (cs.drop 2))

/-- An ASCII digit or a digit of another script. -/
def isAnyDigit (c : Char) : Bool := (Text.digit? c).isSome

/-- Digits with an optional point among or before them; a line end may stand behind them. -/
def isNumeral (cs : List Char) : Bool :=
  let cs := if cs.getLast? = some '\n' then cs.dropLast else cs
  match cs.dropWhile isAnyDigit with
  | [] => !cs.isEmpty
  | '.' :: rest => !rest.isEmpty && rest.all isAnyDigit
  | _ => false

/-- The sort of a word; a beginning that several options have is refused. -/
def Word.ofText (text : String) : Except String Word :=
  match text.toList with
  | [] => .ok .other
  | ['-'] => .ok .other
  | '-' :: rest =>
    let cs := '-' :: rest
    let (name, given) := splitEquals cs
    match spellings.lookup text, spellings.lookup (String.ofList name), given with
    | some s, _, _ => .ok (.option s none)
    | none, some s, some value =>
      .ok (if isLong name then .option s (some value) else .bunch value.toList)
    | _, _, _ =>
      match candidates cs with
      | [(_, w)] => .ok w
      | [] => if isNumeral rest || cs.contains ' ' then .ok .other else .ok .unknown
      | several =>
        .error ("ambiguous option: " ++ text ++ " could match "
          ++ ", ".intercalate (several.map Prod.fst))
  | _ => .ok .other

/-- The words in order; behind a double dash all are others, and it is none itself. -/
def sortWords : List String → Except String (List (String × Option Word))
  | [] => .ok []
  | text :: rest =>
    if text = "--" then
      .ok ((text, none) :: rest.map fun t => (t, some .other))
    else do
      let w ← Word.ofText text
      return (text, some w) :: (← sortWords rest)

/-- What the command line asks for. -/
structure Options where
  config : String
  out : Option String
  showTableaus : Bool
  verify : Bool
  deriving Repr, DecidableEq

/-- What comes of the command line. -/
inductive Request where
  | run (o : Options)
  | help
  | refused (reason : String)
  deriving Repr, DecidableEq

/-- The options taken so far and the words that were not understood. -/
structure Taken where
  config : Option String
  out : Option String
  showTableaus : Bool
  verify : Bool
  extra : List String
  deriving Repr, DecidableEq

/-- Nothing is taken yet. -/
def Taken.none : Taken := ⟨.none, .none, false, false, []⟩

/-- An option with a value takes effect. -/
def Taken.give (t : Taken) (s : Switch) (value : String) : Taken :=
  match s with
  | .config => { t with config := some value }
  | .out => { t with out := some value }
  | _ => t

/-- An option without a value takes effect. -/
def Taken.set (t : Taken) (s : Switch) : Taken :=
  match s with
  | .showTableaus => { t with showTableaus := true }
  | .verify => { t with verify := true }
  | _ => t

/-- The complaint about an option. -/
def complaint (s : Switch) (reason : String) : Request :=
  .refused ("argument " ++ s.name ++ ": " ++ reason)

/-- Something is given to an option without a value. -/
def ignored (s : Switch) (given : List Char) : Request :=
  complaint s ("ignored explicit argument " ++ String.ofList (Text.quoted given))

/-- What comes of what is given to the short spelling of the help: it may be repeated, and
    nothing else may be given to it. -/
def bunched : List Char → Request
  | ['h'] => .help
  | 'h' :: rest => bunched rest
  | given => ignored .help given

/-- What comes of the taken options when all words are read. -/
def Taken.finish (t : Taken) : Request :=
  match t.config with
  | .none => .refused "the following arguments are required: --config"
  | some config =>
    if t.extra.isEmpty then .run ⟨config, t.out, t.showTableaus, t.verify⟩
    else .refused ("unrecognized arguments: " ++ " ".intercalate t.extra)

/-- Lets the options take effect one after the other. -/
def takeWords (t : Taken) : List (String × Option Word) → Request
  | [] => t.finish
  | (_, some (.bunch given)) :: _ => bunched given
  | (_, some (.option s (some value))) :: rest =>
    if s.hasValue then takeWords (t.give s value) rest else ignored s value.toList
  | (_, some (.option s none)) :: rest =>
    if s = .help then .help
    else if s.hasValue then
      match rest with
      | (text, some .other) :: rest => takeWords (t.give s text) rest
      | _ => complaint s "expected one argument"
    else takeWords (t.set s) rest
  | (text, _) :: rest => takeWords { t with extra := t.extra ++ [text] } rest

/-- What a command line asks for. -/
def Request.ofWords (words : List String) : Request :=
  match sortWords words with
  | .error reason => .refused reason
  | .ok sorted => takeWords .none sorted

/-- How the command is used. -/
def usage : String :=
  "usage: cli.py [-h] --config CONFIG [--out OUT] [--show-tableaus] [--verify]\n"

/-- The options explained. -/
def helpText : String :=
  usage ++ "\nDense-tableau simplex solver\n\noptions:\n"
    ++ "  -h, --help       show this help message and exit\n"
    ++ "  --config CONFIG  Path to YAML configuration file.\n"
    ++ "  --out OUT        Output directory for the iteration trace, solution and\n"
    ++ "                   plots.\n"
    ++ "  --show-tableaus  Print every recorded tableau, not only the last one.\n"
    ++ "  --verify         Cross-check the result against SciPy's HiGHS solver.\n"

/-- What is written when a command line or its configuration is refused. -/
def refusal (reason : String) : String := usage ++ "cli.py: error: " ++ reason ++ "\n"

end ProductionLP.CommandLine
