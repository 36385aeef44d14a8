import Unbundle.Index.Build
import Unbundle.Performance.Review

/-!
# Command line

A command reads a document from the standard input and prints what the library makes of it. A project is
described by its name and the text of each of its files:
`{"name": "shop", "files": {"app.py": "..."}}`.
-/

namespace Unbundle.CommandLine

open Files Analysis

def projectOf (document : Value) : Except Fault Location := do
  let name ← document.field "name"
  let files ← (← document.field "files").fields
  let entries := files.foldl (fun es (path, text) =>
    Entry.put (.file (Text.encode text.display)) (Path.ofText path).parts es) []
  return ⟨⟨"", [name.str]⟩, some (.folder entries)⟩

def usage : List String :=
  ["usage: unbundle report|drawing|documents|performance < document",
    "  report       the static analysis of a project",
    "  drawing      the files of a project as a tree",
    "  documents    the pieces into which a project is cut for the index",
    "  performance  a review of a performance report"]

def printReport (document : Value) : Printing Unit := do
  Printing.line (← Report.write (← Printing.silent (projectOf document)))

def printDocuments (document : Value) : Printing Unit := do
  let project ← Printing.silent (projectOf document)
  let report ← Report.ofProject project
  let pieces ← Index.documents project report.toValue
  Printing.line (← Json.write .pretty (.list (pieces.map Index.Document.toValue)))

def run (command : String) (document : Value) : Printing Unit :=
  match command with
  | "report" => printReport document
  | "drawing" => do
    Printing.line (← (do drawing (← projectOf document) : Except Fault _))
  | "documents" => printDocuments document
  | "performance" => Performance.sections document
  | _ => Printing.lines usage

def respond (arguments : List String) (input : String) : String × UInt32 :=
  match arguments with
  | [command] =>
    match Json.read input.toList with
    | .error e => ((Fault.ofJson e).message ++ "\n", 1)
    | .ok document =>
      match (run command document).result with
      | (.ok _, out) => (out, 0)
      | (.error e, out) => (s!"{out}{e.kind}: {e.message}\n", 1)
  | _ => (String.join (usage.map (· ++ "\n")), 2)

end Unbundle.CommandLine

def main (arguments : List String) : IO UInt32 := do
  let input ← (← IO.getStdin).readToEnd
  let (out, status) := Unbundle.CommandLine.respond arguments input
  IO.print out
  return status
