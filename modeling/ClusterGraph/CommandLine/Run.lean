import ClusterGraph.Build
import ClusterGraph.CommandLine.Options
import ClusterGraph.Document.Json5Reader
import ClusterGraph.Document.Reader
import ClusterGraph.Settings.Reader
import ClusterGraph.Snapshot

/-!
# Runs of the command line

A run loads the settings, reads a document, builds its graph and writes it. It is all or nothing:
nothing is written before everything that can fail has succeeded, and of two failures the earlier
in this order is reported. A run sees the world through an `Environment`; `Outcome` is all that it
does.
-/

namespace ClusterGraph.CommandLine

/-- What a run finds around it. -/
structure Environment where
  /-- The contents of a file, if it can be read. -/
  contents? : String → Option ByteArray
  /-- All of standard input. -/
  stdin : ByteArray
  /-- The text of the error that creating a file meets, if it meets one. A file that has been
  created takes its contents: an error that leaves it with a part of them is not told here. -/
  createError : String → Option String

/-- Why a run fails. -/
inductive Failure where
  | settings
  | unreadable (path : String)
  /-- Standard input is no text. -/
  | notText
  | notADocument
  /-- The output file cannot be created. -/
  | output (error : String)
deriving DecidableEq

/-- The wording of a failure. -/
def Failure.message : Failure → String
  | settings => "failed to load build config"
  | unreadable path => "failed to read " ++ path
  | notText => "stream did not contain valid UTF-8"
  | notADocument => "input is not a DOT statement tree"
  | output error => error

/-- What a run does. -/
structure Outcome where
  exitCode : Nat
  stdout : String
  /-- The failure that is reported. -/
  failure : Option Failure
  /-- The diagnostics that are logged. -/
  warnings : List Diagnostic
  /-- The file that is written, with its contents. -/
  written : Option (String × String)

/-! ### Reading -/

/-- Whether a path means standard input: a hyphen, which slashes and dots may follow. -/
def isStdin (path : String) : Bool :=
  match path.toList.splitOn '/' with
  | ['-'] :: rest => rest.all fun part => part == [] || part == ['.']
  | _ => false

/-- What follows the last dot of a file's name, unless the name starts with that dot. -/
def extension? (path : String) : Option (List Char) :=
  let name := (path.toList.splitOn '/').getLast?.getD []
  match name.splitOn '.' with
  | [_] => none
  | [[], _] => none
  | pieces => pieces.getLast?

/-- Whether the file holds JSON5, in capital or small letters. -/
def isJson5 (path : String) : Bool :=
  match extension? path with
  | some ext => ext.map Char.toLower == "json5".toList
  | none => false

/-- The settings of a file, or the default ones. -/
def loadSettings (env : Environment) : Option String → Except Failure Settings
  | none => .ok .default
  | some path =>
    match (env.contents? path).bind String.fromUTF8? with
    | none => .error .settings
    | some text =>
      match Settings.read text with
      | .ok settings => .ok settings
      | .error _ => .error .settings

/-- The text of the document, and whether it is JSON5. -/
def readInput (env : Environment) (path : Option String) : Except Failure (String × Bool) :=
  let stdin := match String.fromUTF8? env.stdin with
    | some text => .ok (text, false)
    | none => .error .notText
  match path with
  | none => stdin
  | some path =>
    if isStdin path then stdin
    else match (env.contents? path).bind String.fromUTF8? with
      | some text => .ok (text, isJson5 path)
      | none => .error (.unreadable path)

/-- Reads a document from JSON or JSON5. -/
def parseDocument (text : String) (json5 : Bool) : Except Failure Document :=
  let doc? := if json5 then (Document.readJson5 text).toOption else (Document.read text).toOption
  match doc? with
  | some doc => .ok doc
  | none => .error .notADocument

/-! ### Running -/

/-- A graph that has been built and is to be written. -/
structure Prepared where
  diagnostics : List Diagnostic
  text : String

/-- Does all that comes before writing. -/
def prepare (env : Environment) (options : Options) : Except Failure Prepared := do
  let settings ← loadSettings env options.settings
  let settings :=
    if options.noLayout then { settings with decodeLayout := false } else settings
  let (text, json5) ← readInput env options.input
  let doc ← parseDocument text json5
  let output := doc.build settings
  .ok ⟨output.diagnostics, output.graph.text (!options.compact)⟩

/-- The outcome of a run that fails. -/
def Outcome.fail (failure : Failure) (warnings : List Diagnostic) : Outcome :=
  ⟨1, "", some failure, warnings, none⟩

/-- Writes a graph to the output file, or to standard output with a line feed behind it. -/
def finish (env : Environment) (prepared : Prepared) : Option String → Outcome
  | none => ⟨0, prepared.text ++ "\n", none, prepared.diagnostics, none⟩
  | some path =>
    match env.createError path with
    | some error => .fail (.output error) prepared.diagnostics
    | none => ⟨0, "", none, prepared.diagnostics, some (path, prepared.text)⟩

/-- A run with options. -/
def run (env : Environment) (options : Options) : Outcome :=
  match prepare env options with
  | .error failure => .fail failure []
  | .ok prepared => finish env prepared options.output

/-- The line that tells the version. -/
def versionLine : String := "dotb 0.1.0\n"

/-- The lines that tell the options. -/
def helpText : String :=
  "Build an attributed graph from a DOT statement tree\n\n" ++
  "Usage: dotb [OPTIONS]\n\n" ++
  "Options:\n" ++
  "  -i, --input <INPUT>        Statement tree (.json or .json5) or '-' for stdin\n" ++
  "  -o, --output <OUTPUT>      Output file for the graph dump. Defaults to stdout if omitted\n" ++
  "  -c, --configFile <CONFIG>  Build config file (JSON or JSON5)\n" ++
  "      --no-layout            Keep pos/bb/width/height as plain attributes\n" ++
  "      --compact              Write single-line JSON\n" ++
  "  -h, --help                 Print help\n" ++
  "  -V, --version              Print version\n"

/-- What a list of arguments does. -/
def respond (env : Environment) (args : List String) : Outcome :=
  match Request.ofList args with
  | .run options => run env options
  | .help => ⟨0, helpText, none, [], none⟩
  | .version => ⟨0, versionLine, none, [], none⟩
  | .refuse => ⟨2, "", none, [], none⟩

end ClusterGraph.CommandLine
