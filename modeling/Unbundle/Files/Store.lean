import Unbundle.Fault

/-!
# A store of files

Files below a home folder that are read, written and listed by paths, relative ones or absolute ones. Two
dots cancel the part before them, whether or not it exists, so a path can lead out of the home folder.
What lies outside the base folder is not known; where the base is the root of the system nothing does.
-/

open Unbundle.Text

namespace Unbundle.Files

/-! ## Files and folders -/

/-! ### Paths -/

structure Path where
  root : String
  parts : List String
  deriving DecidableEq, Repr

namespace Path

/-- The root that a text begins with: two slashes stay two, any other number is one. -/
def rootOf (cs : List Char) : String :=
  match (cs.takeWhile (· == '/')).length with
  | 0 => ""
  | 2 => "//"
  | _ => "/"

def partsOf (cs : List Char) : List String :=
  ((splitOn '/' cs).map String.ofList).filter fun p => p != "" && p != "."

def ofText (s : String) : Path := ⟨rootOf s.toList, partsOf s.toList⟩

def plain (p : Path) : String := p.root ++ String.intercalate "/" p.parts

def toText (p : Path) : String := if p.plain = "" then "." else p.plain

def isAbsolute (p : Path) : Bool := p.root != ""

def name (p : Path) : String := p.parts.getLastD ""

def join (p q : Path) : Path := if q.root = "" then ⟨p.root, p.parts ++ q.parts⟩ else q

def child (p : Path) (name : String) : Path := ⟨p.root, p.parts ++ [name]⟩

/-- A name cut before its last dot, if that is neither its first nor its last character. -/
def cutSuffix (name : List Char) : List Char × List Char :=
  let tail := (name.reverse.takeWhile (· != '.')).length
  let cut := name.length - (tail + 1)
  if tail = 0 ∨ name.length ≤ tail + 1 then (name, []) else (name.take cut, name.drop cut)

def suffixOf (name : String) : String := String.ofList (cutSuffix name.toList).2

def stemOf (name : String) : String := String.ofList (cutSuffix name.toList).1

def withoutSuffix (p : Path) : Except Fault Path :=
  if p.name = "" then .error (.refused s!"PosixPath({Text.quote p.toText}) has an empty name")
  else .ok ⟨p.root, p.parts.dropLast ++ [stemOf p.name]⟩

def relativeTo (p base : Path) : Except Fault Path :=
  if p.root = base.root ∧ base.parts.isPrefixOf p.parts then
    .ok ⟨"", p.parts.drop base.parts.length⟩
  else
    let inner := quote p.toText
    let outer := quote base.plain
    .error (.refused (s!"{inner} is not in the subpath of {outer}" ++
      " OR one path is relative and the other is absolute."))

end Path

/-! ### Files and folders -/

/-- A file with its bytes, or a folder with its entries. -/
inductive Entry where
  | file (content : List UInt8)
  | folder (entries : List (String × Entry))
  deriving Repr, Inhabited

def maxName : Nat := 255

def maxPath : Nat := 4095

def isTooLong (name : String) : Bool := byteLength name.toList > maxName

namespace Entry

def system : Entry :=
  folder (["bin", "dev", "etc", "home", "lib", "opt", "proc", "root", "run", "sbin", "srv", "sys",
    "tmp", "usr", "var"].map fun name => (name, folder []))

def lookup (name : String) : List (String × Entry) → Option Entry
  | [] => none
  | (n, e) :: es => if n = name then some e else lookup name es

def find? : Entry → List String → Option Entry
  | e, [] => some e
  | file _, _ :: _ => none
  | folder es, name :: names => (lookup name es).bind fun e => e.find? names

/-- What names lead to from the first of some folders, where two dots lead back to the next of them.
Above the last one there are only folders of which nothing is known. A name that is too long is a fault
where it is looked for. -/
def follow : List Entry → List String → Except FileCause (Option Entry)
  | [], [] => .ok (some (folder []))
  | [], name :: names =>
    if name = ".." then follow [] names
    else if isTooLong name then .error .nameTooLong
    else .ok none
  | e :: _, [] => .ok (some e)
  | file _ :: _, _ :: _ => .ok none
  | folder es :: up, name :: names =>
    if name = ".." then follow up names
    else if isTooLong name then .error .nameTooLong
    else
      match lookup name es with
      | none => .ok none
      | some e => follow (e :: folder es :: up) names

def isFolder : Entry → Bool
  | file _ => false
  | folder _ => true

def place (name : String) (e : Entry) : List (String × Entry) → List (String × Entry)
  | [] => [(name, e)]
  | (n, f) :: es =>
    if name = n then (n, e) :: es
    else if name < n then (name, e) :: (n, f) :: es
    else (n, f) :: place name e es

/-- The entries with one put below some folders, which are made if they are missing. Nothing changes
when a file is in the way. -/
def put (e : Entry) : List String → List (String × Entry) → List (String × Entry)
  | [], es => es
  | [name], es => place name e es
  | name :: names, es =>
    match lookup name es with
    | none => place name (folder (put e names [])) es
    | some (folder inner) => place name (folder (put e names inner)) es
    | some (file _) => es

end Entry

/-- The text of a file read leniently: bytes that are no text are left out, and each kind of line
break becomes a line feed. -/
def lenientText (content : List UInt8) : List Char :=
  unifyBreaks (decodeSkipping content)

/-- The text of a file that has to be well formed; each kind of line break becomes a line feed. -/
def strictText (content : List UInt8) : Except Fault (List Char) :=
  match decode content with
  | .ok cs => .ok (unifyBreaks cs)
  | .error e => .error (.utf8 e)

def blockText (content : List UInt8) : Except Fault (List Char) :=
  match decodeBlocks content with
  | .ok cs => .ok (unifyBreaks cs)
  | .error e => .error (.utf8 e)

/-- A folder, or what was found in its place, and where it lies. -/
structure Location where
  path : Path
  entry : Option Entry
  deriving Repr

namespace Location

def find? (l : Location) (names : List String) : Option Entry := l.entry.bind fun e => e.find? names

def look (l : Location) (p : Path) : Except Fault (Option Entry) :=
  let full := (l.path.join p).toText
  if full.toList.contains '\x00' then .ok none
  else if byteLength full.toList > maxPath then .error (.file .nameTooLong full)
  else
    let found : Except FileCause (Option Entry) := match p.root, l.entry with
      | "", none => .ok none
      | "", some e => Entry.follow [e, .folder [(l.path.name, e)]] p.parts
      | _, _ => Entry.follow [Entry.system] p.parts
    found.mapError fun cause => .file cause full

def entries (l : Location) : Except Fault (List (String × Entry)) :=
  match l.entry with
  | some (.folder es) => .ok es
  | some (.file _) => .error (.file .notDirectory l.path.toText)
  | none => .error (.file .notFound l.path.toText)

end Location

/-! ## A store of files -/

/-- Files below a base folder, and the way from there to the home folder. -/
structure Store where
  base : Path
  home : List String
  entries : List (String × Entry)
  deriving Repr

namespace Store

/-- The names that a path comes to: two dots take back the name before, if there is one. -/
def normalize : List String → List String → List String
  | taken, [] => taken.reverse
  | taken, name :: names =>
    if name = ".." then normalize taken.tail names else normalize (name :: taken) names

def target (s : Store) (p : Path) : Path :=
  let full := (s.base.join ⟨"", s.home⟩).join p
  ⟨full.root, normalize [] full.parts⟩

/-- The names on the way from the base to what a path means; none if it lies outside. -/
def resolve (s : Store) (path : String) : Except Fault (Option (List String)) :=
  if path.toList.contains '\x00' then .error (.refused "embedded null byte")
  else
    let full := s.target (Path.ofText path)
    .ok (if full.isAbsolute = s.base.isAbsolute ∧ s.base.parts <+: full.parts then
      some (full.parts.drop s.base.parts.length)
    else none)

def pathText (s : Store) (names : List String) : String := (s.base.join ⟨"", names⟩).toText

def at? (s : Store) (names : List String) : Option Entry := (Entry.folder s.entries).find? names

def isFar (s : Store) (names : List String) : Bool :=
  byteLength (s.pathText names).toList > maxPath

def look (s : Store) (names : List String) : Except Fault (Option Entry) :=
  let tooLong : Except Fault (Option Entry) := .error (.file .nameTooLong (s.pathText names))
  if s.isFar names then tooLong
  else
    match names.findIdx? isTooLong with
    | none => .ok (s.at? names)
    | some i =>
      match s.at? (names.take i) with
      | some (.folder _) => tooLong
      | _ => .ok none

def lookAt (s : Store) (path : String) : Except Fault (Option (List String × Entry)) := do
  match ← s.resolve path with
  | none => return none
  | some names => return (← s.look names).map fun e => (names, e)

/-! ### Reading -/

def read (s : Store) (path : String) : String :=
  let outcome : Except Fault String := do
    match ← s.lookAt path with
    | none => return s!"Error: File not found: {path}"
    | some (_, .file content) => return String.ofList (lenientText content)
    | some (names, .folder _) => throw (.file .isDirectory (s.pathText names))
  match outcome with
  | .ok text => text
  | .error e => s!"Error reading file: {e.message}"

/-! ### Writing -/

def put (s : Store) (names : List String) (e : Entry) : Store :=
  { s with entries := Entry.put e names s.entries }

/-- Makes what is missing of a folder and those above it. Of the names, `done` are known to lead to a
folder; `asked` are those of the folder whose making goes wrong first: the one that is asked for as long
as all is there, and then each of the missing ones in turn. -/
def makeFolders (asked done : List String) : List String → Store → Except (Fault × Store) Store
  | [], s => .ok s
  | name :: names, s =>
    let here := done ++ [name]
    let asked := if asked.length < here.length then here else asked
    if isTooLong name then .error (.file .nameTooLong (s.pathText asked), s)
    else
      match s.at? here with
      | some (.folder _) => makeFolders asked here names s
      | some (.file _) =>
        if names.isEmpty then .error (.named "FileExistsError"
          s!"[Errno 17] File exists: {Text.quote (s.pathText here)}", s)
        else .error (.file .notDirectory (s.pathText asked), s)
      | none => makeFolders here here names (s.put here (.folder []))

def writeAt (s : Store) (names : List String) (content : List UInt8) (append : Bool) :
    Except (Fault × Store) Store := do
  let above := names.dropLast
  if s.isFar above then .error (.file .nameTooLong (s.pathText above), s)
  let s ← makeFolders above [] above s
  if s.isFar names || isTooLong (names.getLastD "") then
    .error (.file .nameTooLong (s.pathText names), s)
  else
    match s.at? names with
    | some (.folder _) => .error (.file .isDirectory (s.pathText names), s)
    | some (.file old) => return s.put names (.file (if append then old ++ content else content))
    | none => return s.put names (.file content)

def change (s : Store) (path content : String) (append : Bool) : Except (Fault × Store) Store :=
  match s.resolve path with
  | .error e => .error (e, s)
  | .ok none => .error (.file .denied path, s)
  | .ok (some names) => s.writeAt names (encode content.toList) append

def write (s : Store) (path content : String) (append : Bool) : String × Store :=
  match s.change path content append with
  | .ok t =>
    let action := if append then "appended to" else "wrote to"
    (s!"Successfully {action} {path}", t)
  | .error (e, t) => (s!"Error writing file: {e.message}", t)

/-! ### Listing -/

mutual

def filesBelow (above : String) : Entry → List String
  | .file _ => []
  | .folder es => filesAmong above es

def filesAmong (above : String) : List (String × Entry) → List String
  | [] => []
  | (name, e) :: es =>
    (if e.isFolder then filesBelow (above ++ name ++ "/") e else [above ++ name]) ++
      filesAmong above es

end

def names (es : List (String × Entry)) : List String :=
  es.map fun (name, e) => if e.isFolder then name ++ "/" else name

def list (s : Store) (path : String) (recursive : Bool) : Except Fault (List String) := do
  match ← s.lookAt path with
  | none => return [s!"Error: Path does not exist: {path}"]
  | some (_, .file _) => return [s!"Error: Path is not a directory: {path}"]
  | some (_, .folder es) =>
    let found := if recursive then filesAmong "" es else names es
    return found.mergeSort fun a b => decide (a ≤ b)

/-! ### Checking a template -/

structure LintResult where
  status : Int
  output : String
  errors : String

def validate (s : Store) (path : String) (lint : Option LintResult) : Except Fault String := do
  match ← s.lookAt path with
  | none => return s!"Error: File not found: {path}"
  | some _ =>
    match lint with
    | none => return "Error: cfn-lint command not found. Please ensure it is installed."
    | some r =>
      if r.status = 0 then return "Validation Successful! No errors found."
      else return s!"Validation Failed:\n{r.output}{r.errors}"

end Store

end Unbundle.Files
