import Unbundle.Json.Read

/-!
# Faults

Everything that can stop an analysis or a handler, by cause. `Fault.message` gives the wording and
`Fault.kind` the name under which a cause is reported.
-/

namespace Unbundle

inductive FileCause where
  | notFound
  | isDirectory
  | notDirectory
  | nameTooLong
  | denied
  deriving DecidableEq, Repr

def FileCause.text : FileCause → String
  | .notFound => "[Errno 2] No such file or directory"
  | .isDirectory => "[Errno 21] Is a directory"
  | .notDirectory => "[Errno 20] Not a directory"
  | .nameTooLong => "[Errno 36] File name too long"
  | .denied => "[Errno 13] Permission denied"

def FileCause.kind : FileCause → String
  | .notFound => "FileNotFoundError"
  | .isDirectory => "IsADirectoryError"
  | .notDirectory => "NotADirectoryError"
  | .nameTooLong => "OSError"
  | .denied => "PermissionError"

/-- What nests deeper than it is followed. -/
inductive Nesting where
  | rules
  /-- The levels of the tree of a source. -/
  | tree
  /-- The steps of an analysis that goes down a tree. -/
  | steps
  /-- The lists, or else the maps, of a JSON text. -/
  | json (list : Bool)
  deriving DecidableEq, Repr

def Nesting.kind : Nesting → String
  | .rules => "MemoryError"
  | _ => "RecursionError"

def Nesting.message : Nesting → String
  | .rules => ""
  | .tree => "maximum recursion depth exceeded during ast construction"
  | .steps => "maximum recursion depth exceeded"
  | .json list =>
    let what := if list then "array" else "object"
    s!"maximum recursion depth exceeded while decoding a JSON {what} from a unicode string"

def tooManyDigits (digits : Nat) : String :=
  s!"Exceeds the limit ({Json.maxDigits} digits) for integer string conversion: value has {digits}" ++
    " digits; use sys.set_int_max_str_digits() to increase the limit"

def tooManyToWrite : String :=
  s!"Exceeds the limit ({Json.maxDigits} digits) for integer string conversion; use " ++
    "sys.set_int_max_str_digits() to increase the limit"

inductive Fault where
  /-- A map has no field of that name. -/
  | missingKey (key : Value)
  | noAttribute (kind name : String)
  | notSubscriptable (kind : String)
  | listIndex (kind : String)
  | textIndex (kind : String)
  /-- An index lies outside a list. -/
  | outOfRange
  | notIterable (kind : String)
  | notContainer (kind : String)
  | unhashable (kind : String)
  | operands (op left right : String)
  /-- Two kinds are not ordered. -/
  | unordered (op left right : String)
  | noLength (kind : String)
  | badFormat (code kind : String)
  | noFormat (kind : String)
  /-- A bound of a slice is not a whole number. -/
  | badSlice
  | notSerializable (kind : String)
  | json (e : Json.Error)
  | utf8 (e : Text.Utf8Error)
  | file (cause : FileCause) (path : String)
  /-- Something nests deeper than it is followed. -/
  | nesting (what : Nesting)
  | mistyped (message : String)
  | refused (message : String)
  /-- A name that nothing defines. -/
  | unnamed (name : String)
  /-- A decimal operation that has no result; the signal that says why. -/
  | decimal (signal : String)
  /-- A number left its range. -/
  | overflow (message : String)
  | divisionByZero (message : String)
  | service (code operation message : String)
  | payment (kind message : String) (userMessage : Value)
  /-- The program ended itself with this status. -/
  | exit (status : Value)
  /-- A failure that is reported under a name of its own. -/
  | named (kind message : String)
  deriving Repr

namespace Fault

def kind : Fault → String
  | missingKey _ => "KeyError"
  | noAttribute .. => "AttributeError"
  | outOfRange => "IndexError"
  | badFormat .. | refused _ => "ValueError"
  | json _ => "JSONDecodeError"
  | utf8 _ => "UnicodeDecodeError"
  | file cause _ => cause.kind
  | nesting what => what.kind
  | unnamed _ => "NameError"
  | decimal _ => "InvalidOperation"
  | overflow _ => "OverflowError"
  | divisionByZero _ => "ZeroDivisionError"
  | service code _ _ => code
  | payment kind _ _ => kind
  | exit _ => "SystemExit"
  | named kind _ => kind
  | _ => "TypeError"

def message : Fault → String
  | missingKey key => String.ofList key.shown
  | noAttribute kind name => s!"'{kind}' object has no attribute '{name}'"
  | notSubscriptable kind => s!"'{kind}' object is not subscriptable"
  | listIndex kind => s!"list indices must be integers or slices, not {kind}"
  | textIndex kind => s!"string indices must be integers, not '{kind}'"
  | outOfRange => "list index out of range"
  | notIterable kind => s!"'{kind}' object is not iterable"
  | notContainer kind => s!"argument of type '{kind}' is not iterable"
  | unhashable kind => s!"unhashable type: '{kind}'"
  | operands op left right => s!"unsupported operand type(s) for {op}: '{left}' and '{right}'"
  | unordered op left right =>
    s!"'{op}' not supported between instances of '{left}' and '{right}'"
  | noLength kind => s!"object of type '{kind}' has no len()"
  | badFormat code kind => s!"Unknown format code '{code}' for object of type '{kind}'"
  | noFormat kind => s!"unsupported format string passed to {kind}.__format__"
  | badSlice => "slice indices must be integers or None or have an __index__ method"
  | notSerializable kind => s!"Object of type {kind} is not JSON serializable"
  | json e => e.message
  | utf8 e => e.message
  | file cause path => s!"{cause.text}: {Text.quote path}"
  | nesting what => what.message
  | mistyped m | refused m | overflow m | divisionByZero m | payment _ m _ | named _ m => m
  | unnamed name => s!"name '{name}' is not defined"
  | decimal signal => s!"[<class 'decimal.{signal}'>]"
  | service code operation m =>
    s!"An error occurred ({code}) when calling the {operation} operation: {m}"
  | exit status => status.str

def ofJson : Json.Failure → Fault
  | .malformed e => json e
  | .tooDeep list => nesting (.json list)
  | .tooLong digits => refused (tooManyDigits digits)

/-- The fault of a failure that is known by its name and a message. A failure whose name asks for more
than a message is one about its arguments. -/
def ofKind (kind message : String) : Fault :=
  match kind with
  | "KeyError" => missingKey (.text message)
  | "IOError" | "EnvironmentError" => named "OSError" message
  | "UnicodeDecodeError" | "UnicodeEncodeError" =>
    mistyped "function takes exactly 5 arguments (1 given)"
  | "UnicodeTranslateError" => mistyped "function takes exactly 4 arguments (1 given)"
  | "BaseExceptionGroup" | "ExceptionGroup" =>
    mistyped "BaseExceptionGroup.__new__() takes exactly 2 arguments (1 given)"
  | _ => named kind message

def isRefusal : Fault → Bool
  | badFormat .. | refused _ | json _ | utf8 _ => true
  | named kind _ => kind == "ValueError" || kind == "UnicodeError"
  | _ => false

def isMissing : Fault → Bool
  | missingKey _ => true
  | _ => false

def isMistyped (e : Fault) : Bool := e.kind == "TypeError"

/-- Whether a fault asks the program to stop. What goes on after a failure does not go on after such a
fault. -/
def isInterrupt (e : Fault) : Bool :=
  ["KeyboardInterrupt", "SystemExit", "GeneratorExit", "BaseException"].contains e.kind

def isConditionFailure : Fault → Bool
  | service code _ _ => code == "ConditionalCheckFailedException"
  | _ => false

end Fault

/-! ## Computations that print -/

abbrev Printing := ExceptT Fault (StateM String)

namespace Printing

def put (s : String) : Printing Unit := modify fun (printed : String) => printed ++ s

def line (s : String) : Printing Unit := put (s ++ "\n")

def lines (ss : List String) : Printing Unit := ss.forM line

def silent (r : Except Fault α) : Printing α := ExceptT.mk (pure r)

/-- The outcome of a computation, which does not stop what comes after it. A request to stop is passed
on. -/
def attempt (p : Printing α) : Printing (Except Fault α) :=
  tryCatch (Except.ok <$> p) fun e => if e.isInterrupt then throw e else pure (.error e)

def result (p : Printing α) : Except Fault α × String := StateT.run (ExceptT.run p) ""

end Printing

end Unbundle
