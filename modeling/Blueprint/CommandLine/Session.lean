/-
# A session of the command line

The definitions of a file are compiled.  With a directory for the results both renderings are
written there and their paths are printed; without one the rendering that was asked for is
printed.  What goes wrong with a definition, with a file or with the text of a file is logged,
and the session ends with code one and prints nothing.  Any other failure is that of the
session.
-/
import Blueprint.CommandLine.Arguments
import Blueprint.Files.Export

namespace Blueprint.CommandLine

/-- How a session ends. -/
inductive Ending where
  /-- The arguments are refused. -/
  | refused (refusal : Refusal)
  /-- The definitions were rejected. -/
  | rejected
  /-- The session did its work, and printed a text. -/
  | finished (output : Text)

/-- The code that a session ends with. -/
def Ending.code : Ending → Nat
  | refused .help => 0
  | refused _ => 2
  | rejected => 1
  | finished _ => 0

/-- What a session prints. -/
def Ending.output : Ending → Text
  | finished output => output
  | _ => ""

/-- Whether a failure is reported in the log, as opposed to that of the session. -/
def isReported : Failure → Bool
  | .mistake _ | .mistakes _ | .mismatch _ => true
  | .duplicateEntry _ | .duplicateType _ | .positionInvalid _ => true
  | .notDecimal _ | .longNumber _ | .foreignBase64 | .json .. | .utf8 _ => true
  | .unencodable _ | .file .. | .nullInPath => true
  | .defect d => d.blame == .value
  | _ => false

/-- The text of plans in a form. -/
def render (split : Factory.Splitter) (compiled : CompiledEntries) : Format → Run Text
  | .json => return (← Run.ofExcept (compiledText compiled)) ++ "\n"
  | .python => FactoryModule.text split compiled

/-- The directory for the results; an empty path is none. -/
def Settings.directory? (settings : Settings) : Option String :=
  settings.output.filter fun path => !path.isEmpty

/-- Says where the results are, as paths from the root of all files on; `here` is the path of
the working directory. -/
def report (here directory : String) (compiled : CompiledEntries) : Run Text := do
  let path := FilePath.ofText directory
  Run.note (.exported compiled.length (path.resolvedText here))
  let line := fun file => "- " ++ (path.child file).resolvedText here ++ "\n"
  return line payloadFile ++ line factoriesFile

/-- Does what the arguments ask for, and gives what is printed. -/
def work (types : Introspector) (split : Factory.Splitter) (here : String)
    (settings : Settings) : Run Text := do
  let definitions ← loadDefinitions settings.definitions
  match settings.directory? with
  | some directory =>
    report here directory (← exportDefinitions types split definitions directory)
  | none => render split (← compileAll types definitions) settings.format

/-- The session of a list of arguments. -/
def session (types : Introspector) (split : Factory.Splitter) (here : String)
    (arguments : List String) : Run Ending :=
  match parse arguments with
  | .error refusal => return .refused refusal
  | .ok settings => do
    if settings.paths.any fun path => (FilePath.ofText path).holdsNull then Run.fail .nullInPath
    Run.recover (return .finished (← work types split here settings)) fun failure =>
      if isReported failure then do
        Run.note (.failed failure.message)
        return .rejected
      else Run.fail failure

/-! ## What is shown besides -/

/-- Whether a character ends a line. -/
def endsLine (c : Char) : Bool :=
  ['\n', '\r', '\x0b', '\x0c', '\x1c', '\x1d', '\x1e', '\u0085', '\u2028', '\u2029'].contains c

/-- The lines of points, whichever way they end.  `line` is what was read of the first. -/
def linesFrom (line : List Point) : List Point → List Text
  | [] => if line.isEmpty then [] else [⟨line⟩]
  | .char '\r' :: .char '\n' :: rest => ⟨line⟩ :: linesFrom [] rest
  | p :: rest =>
    if p.isIn endsLine then ⟨line⟩ :: linesFrom [] rest
    else linesFrom (line ++ [p]) rest

/-- The lines of a text. -/
def textLines (text : Text) : List Text :=
  linesFrom [] text.points

/-- The lines of a log, in which every event ends a line; without `verbose` those of details are
left out. -/
def logLines (verbose : Bool) (events : List Event) : List Text :=
  (events.filter fun event => verbose || !event.isDetail).flatMap fun event =>
    textLines (event.line ++ "\n")

/-- The text of a refusal. -/
def refusalText (refusal : Refusal) : Option Text :=
  refusal.message?.map fun text => "objcompiler: error: " ++ text ++ "\n"

/-- Whether arguments ask for a log of details. -/
def isVerbose (arguments : List String) : Bool :=
  match parse arguments with
  | .ok settings => settings.verbose
  | .error _ => false

/-- What a session shows in its log, given its end and its events: the last line of the reason for
a refusal, or else the events. -/
def shownLines (arguments : List String) (ending : Ending) (events : List Event) : List Text :=
  match ending with
  | .refused refusal =>
    match refusalText refusal with
    | none => []
    | some text => (textLines text).getLast?.toList
  | _ => logLines (isVerbose arguments) events

end Blueprint.CommandLine
