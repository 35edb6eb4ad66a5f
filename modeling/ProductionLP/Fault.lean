import ProductionLP.Text.Quoted
import ProductionLP.Text.Utf8

/- Faults of data.

   What can be wrong with a value, an array or a file, apart from what the rules of linear
   programs say. Each cause has its wording here, in one place. -/
namespace ProductionLP

/-- A cause of failure outside the rules of the program. -/
inductive Fault where
  /-- An operation met a kind of value that it is not for. -/
  | wrongKind
  /-- A value was asked for a field, but only mappings have fields. -/
  | noFields
  /-- An index lies outside its axis. -/
  | outOfRange
  /-- An integer is beyond the doubles. -/
  | tooLarge
  /-- A result is beyond the doubles. -/
  | roundedTooLarge
  /-- An infinite number has no integer. -/
  | infiniteInteger
  /-- An undefined number has no integer. -/
  | undefinedInteger
  /-- A text is not an integer in this base; it is shown quoted. -/
  | notInteger (base : Nat) (quoted : String)
  /-- A text has more digits than are read as a decimal integer. -/
  | manyDigits (count : Nat)
  /-- An integer has more digits than are written. -/
  | unshowable
  /-- A text is not a number; it is shown quoted. -/
  | notNumber (quoted : String)
  /-- Nested lists disagree below the axes that they share. -/
  | ragged (shape : List Nat)
  /-- Lists are nested deeper than an array has axes. -/
  | deepArray
  /-- An axis is longer than places can be counted. -/
  | longAxis
  /-- An array has more octets than places can be counted. -/
  | hugeArray
  /-- An array needs more memory than there is. -/
  | outOfMemory
  /-- Numbers are rounded to more places than a machine word counts. -/
  | manyPlaces
  /-- The entries do not fill the shape. -/
  | unfilled (size : Nat) (shape : List Int)
  /-- Two shapes do not fit together. -/
  | mismatch
  /-- An array is compared as a whole, but not all arrays are one number. -/
  | ambiguous
  /-- An axis has a negative length. -/
  | negativeLength
  /-- No status has this name. -/
  | unknownStatus (name : String)
  /-- A field of a text matrix is not a number. -/
  | matrixField (quoted : String) (row column : Nat)
  /-- A row of a text matrix has another number of fields than the first. -/
  | matrixWidth (first here row : Nat)
  /-- A binary matrix is damaged. -/
  | binaryMatrix (reason : String)
  /-- The header of a binary matrix ends inside brackets. -/
  | openHeader
  /-- The header of a binary matrix is indented unevenly. -/
  | unevenHeader
  /-- A shape in the layout of a binary matrix is not written as one. -/
  | brokenShape
  /-- A binary matrix begins like an archive and is none. -/
  | notArchive
  /-- A binary matrix holds a code beyond the characters. -/
  | brokenCode
  /-- A binary matrix has no octets at all. -/
  | emptyFile
  /-- A file is not UTF-8. -/
  | notText (cause : Text.Utf8Error)
  /-- No file has this path. -/
  | notFound (path : String)
  /-- The path names a directory. -/
  | isDirectory (path : String)
  /-- A file stands where a directory is needed. -/
  | notDirectory (path : String)
  /-- A file stands where a directory would be made. -/
  | alreadyThere (path : String)
  /-- A path, or a step of it, is longer than paths may be. -/
  | longPath (path : String)
  /-- A path holds the null character. -/
  | nullInPath
  /-- A path holds a surrogate, which has no octets. -/
  | surrogateInPath
  /-- The directory that a path is meant to be looked up from is not known. -/
  | noHome
  /-- A document is not well formed. -/
  | document
  /-- Collections are nested too deep. -/
  | deepDocument
  /-- A collection that contains itself has no written form. -/
  | circular
  /-- A word or a key is looked up where it is not known. -/
  | unknownWord
  /-- A code in a document is beyond the characters. -/
  | noCharacter
  /-- A date in a document names no day or no time. -/
  | noDate (reason : String)
  deriving Repr, DecidableEq

/-- A shape in parentheses; a single axis is followed by a comma. -/
def shapeText (shape : List Int) : String :=
  match shape with
  | [k] => "(" ++ toString k ++ ",)"
  | _ => "(" ++ ", ".intercalate (shape.map toString) ++ ")"

/-- The length of an axis; one below zero stands for an axis that is still to be found. -/
def axisText (length : Int) : String := if length < 0 then "newaxis" else toString length

/-- A shape without blanks, as it is named when entries do not fill it. -/
def tightShapeText (shape : List Int) : String :=
  match shape with
  | [k] => "(" ++ axisText k ++ ",)"
  | _ => "(" ++ ",".intercalate (shape.map axisText) ++ ")"

/-- How much of a quoted text is shown when it is not an integer. -/
def shownLength : Nat := 200

/-- The greatest number of digits of an integer that is written. -/
def mostDigits : Nat := 4300

/-- Whether an integer is written. -/
def isWritten (i : Int) : Bool := i.natAbs < Nat.pow 10 mostDigits

/-- What is said of integers with too many digits. -/
def digitLimit : String := "Exceeds the limit (4300 digits) for integer string conversion"
def digitAdvice : String := "; use sys.set_int_max_str_digits() to increase the limit"

/-- The cause in words. -/
def Fault.message : Fault → String
  | .wrongKind => "the operation is not defined for this kind of value"
  | .noFields => "the value has no fields"
  | .outOfRange => "index out of range"
  | .tooLarge => "int too large to convert to float"
  | .roundedTooLarge => "rounded value too large to represent"
  | .infiniteInteger => "cannot convert float infinity to integer"
  | .undefinedInteger => "cannot convert float NaN to integer"
  | .notInteger base q =>
    "invalid literal for int() with base " ++ toString base ++ ": "
      ++ String.ofList (q.toList.take shownLength)
  | .manyDigits count =>
    digitLimit ++ ": value has " ++ toString count ++ " digits" ++ digitAdvice
  | .unshowable => digitLimit ++ digitAdvice
  | .notNumber q => "could not convert string to float: " ++ q
  | .ragged shape =>
    "setting an array element with a sequence. The requested array has an inhomogeneous shape "
      ++ "after " ++ toString shape.length ++ " dimensions. The detected shape was "
      ++ shapeText (shape.map Int.ofNat) ++ " + inhomogeneous part."
  | .deepArray =>
    "setting an array element with a sequence. The requested array would exceed the maximum "
      ++ "number of dimension of 64."
  | .longAxis => "Maximum allowed dimension exceeded"
  | .hugeArray =>
    "array is too big; \x60arr.size * arr.dtype.itemsize\x60 is larger than the maximum "
      ++ "possible size."
  | .outOfMemory => "Unable to allocate the array"
  | .manyPlaces => "the number of places is too large"
  | .unfilled size shape =>
    "cannot reshape array of size " ++ toString size ++ " into shape " ++ tightShapeText shape
  | .mismatch => "the shapes do not fit together"
  | .ambiguous =>
    "The truth value of an array with more than one element is ambiguous. Use a.any() or a.all()"
  | .negativeLength => "negative dimensions are not allowed"
  | .unknownStatus name => Text.quotedString name ++ " is not a valid SimplexStatus"
  | .matrixField q row column =>
    "could not convert string " ++ q ++ " to float64 at row " ++ toString row ++ ", column "
      ++ toString column ++ "."
  | .matrixWidth first here row =>
    "the number of columns changed from " ++ toString first ++ " to " ++ toString here
      ++ " at row " ++ toString row
      ++ "; use \x60usecols\x60 to select a subset and avoid this error"
  | .binaryMatrix reason => reason
  | .openHeader => "the header ends inside brackets"
  | .unevenHeader => "the header is indented unevenly"
  | .brokenShape => "invalid syntax"
  | .notArchive => "File is not a zip file"
  | .brokenCode => "invalid maximum character"
  | .emptyFile => "No data left in file"
  | .notText cause => cause.message
  | .notFound path => "[Errno 2] No such file or directory: " ++ Text.quotedString path
  | .isDirectory path => "[Errno 21] Is a directory: " ++ Text.quotedString path
  | .notDirectory path => "[Errno 20] Not a directory: " ++ Text.quotedString path
  | .alreadyThere path => "[Errno 17] File exists: " ++ Text.quotedString path
  | .longPath path => "[Errno 36] File name too long: " ++ Text.quotedString path
  | .nullInPath => "embedded null byte"
  | .surrogateInPath => "surrogates not allowed"
  | .noHome => "Could not determine home directory."
  | .document => "<yaml>"
  | .deepDocument => "maximum recursion depth exceeded"
  | .circular => "Circular reference detected"
  | .unknownWord => "the word has no meaning for its tag"
  | .noCharacter => "chr() arg not in range(0x110000)"
  | .noDate reason => reason

end ProductionLP
