import TwoWaySql.Config

/-!
# Arguments of the command line

One directory, and options before or behind it in a long or a short form. A value follows its
option after an equals sign, as the next argument, or right behind the short letter. No option
is given twice.
-/
namespace TwoWaySql

/-- What the command line asks for. -/
structure Options where
  /-- The template directory. -/
  dir : Path
  /-- The configuration in place of the one in the directory. -/
  config : Option Path
  /-- The output path in place of the configured one. -/
  output : Option Path
  /-- The dialect in place of the configured one. -/
  dialect : Option Dialect
  /-- Whether the output is compared and not written. -/
  check : Bool
  /-- Where a report is stored. -/
  report : Option Path
  /-- Whether progress is told. -/
  verbose : Bool
deriving DecidableEq, Repr

/-- What a command line is for. -/
inductive Command where
  /-- A generation. -/
  | generate (options : Options)
  /-- The help text. -/
  | help
  /-- The version. -/
  | version
  /-- Nothing: the arguments are wrong. -/
  | refused
deriving DecidableEq, Repr

namespace CommandLine

/-- An option. -/
inductive Switch where
  /-- The configuration. -/
  | config
  /-- The output path. -/
  | output
  /-- The dialect. -/
  | dialect
  /-- Comparing in place of writing. -/
  | check
  /-- The stored report. -/
  | report
  /-- Telling progress. -/
  | verbose
  /-- The help text. -/
  | help
  /-- The version. -/
  | version
deriving DecidableEq, Repr

namespace Switch

/-- All options. -/
def all : List Switch := [config, output, dialect, check, report, verbose, help, version]

/-- The long form, without its hyphens. -/
def word : Switch → Text
  | config => "config"
  | output => "output"
  | dialect => "dialect"
  | check => "check"
  | report => "report"
  | verbose => "verbose"
  | help => "help"
  | version => "version"

/-- The letter of the short form. -/
def letter? : Switch → Option Char
  | config => some 'c'
  | output => some 'o'
  | dialect => some 'd'
  | verbose => some 'v'
  | help => some 'h'
  | version => some 'V'
  | check => none
  | report => none

/-- Whether a value belongs to the option. -/
def takesValue : Switch → Bool
  | config => true
  | output => true
  | dialect => true
  | report => true
  | _ => false

/-- The option of a long form. -/
def ofWord? (word : Text) : Option Switch := all.find? (·.word = word)

/-- The option of a letter. -/
def ofLetter? (letter : Char) : Option Switch := all.find? (·.letter? = some letter)

end Switch

/-- A piece of a command line. -/
inductive Argument where
  /-- An option without a value. -/
  | flag (s : Switch)
  /-- An option with its value. -/
  | valued (s : Switch) (value : Text)
  /-- Any other argument. -/
  | positional (t : Text)
deriving DecidableEq, Repr

/-- Whether an argument may be the value of the option before it. -/
def mayBeValue (t : Text) : Bool :=
  match t with
  | '-' :: _ :: _ => false
  | _ => true

/-- The value of an option that ends with its argument: the next argument. -/
def takeNext (s : Switch) : List Text → Option (Argument × List Text)
  | value :: rest => if mayBeValue value then some (.valued s value, rest) else none
  | [] => none

/-- Reads an option in its long form, without the hyphens. -/
def readLong (t : Text) (rest : List Text) : Option (Argument × List Text) :=
  match Text.cut t ['='] with
  | some (word, value) => do
    let s ← Switch.ofWord? word
    if s.takesValue then some (.valued s value, rest) else none
  | none => do
    let s ← Switch.ofWord? t
    if s.takesValue then takeNext s rest else some (.flag s, rest)

/-- Reads options in their short forms, without the hyphen. The first that takes a value takes
what is left of the argument, an equals sign apart, or else the next argument. -/
def readShort : Text → List Text → Option (List Argument × List Text)
  | [], rest => some ([], rest)
  | letter :: letters, rest => do
    let s ← Switch.ofLetter? letter
    if s.takesValue then
      match letters with
      | [] => (takeNext s rest).map fun (a, rest) => ([a], rest)
      | '=' :: value => some ([.valued s value], rest)
      | value => some ([.valued s value], rest)
    else if s = .help ∨ s = .version then some ([.flag s], rest)
    else
      let (arguments, rest) ← readShort letters rest
      some (.flag s :: arguments, rest)

/-- A reading of arguments up to a failure: the pieces before it, and whether there was none. -/
abbrev Reading := List Argument × Bool

/-- Puts pieces in front of a reading. -/
def before (arguments : List Argument) (r : Reading) : Reading := (arguments ++ r.1, r.2)

/-- Reads the arguments, each one or two at a time; `fuel` bounds their number. -/
def readAll : Nat → List Text → Reading
  | 0, _ => ([], true)
  | _, [] => ([], true)
  | fuel + 1, t :: rest =>
    match t with
    | ['-', '-'] => (rest.map .positional, true)
    | '-' :: '-' :: word =>
      match readLong word rest with
      | some (argument, rest) => before [argument] (readAll fuel rest)
      | none => ([], false)
    | '-' :: letter :: letters =>
      match readShort (letter :: letters) rest with
      | some (arguments, rest) => before arguments (readAll fuel rest)
      | none => ([], false)
    | t => before [.positional t] (readAll fuel rest)

/-- The options before any argument is taken; the directory is still to come. -/
structure Pending where
  /-- The directory. -/
  dir : Option Path
  /-- The other options, with no directory. -/
  options : Options

/-- A path, unless it is empty. -/
def path? (t : Text) : Option Path := if t.isEmpty then none else some ⟨t⟩

/-- Sets an option that was not set before. -/
def setOnce {α : Type} (old : Option α) (new : Option α) : Option (Option α) :=
  match old, new with
  | none, some new => some (some new)
  | _, _ => none

/-- What is asked for after one more argument, if it fits in. -/
def take (p : Pending) : Argument → Option Pending
  | .positional t => do
    let dir ← setOnce p.dir (path? t)
    some { p with dir }
  | .valued .config t => do
    let config ← setOnce p.options.config (path? t)
    some { p with options := { p.options with config } }
  | .valued .output t => do
    let output ← setOnce p.options.output (path? t)
    some { p with options := { p.options with output } }
  | .valued .dialect t => do
    let dialect ← setOnce p.options.dialect (Dialect.ofName? t)
    some { p with options := { p.options with dialect } }
  | .valued .report t => do
    let report ← setOnce p.options.report (path? t)
    some { p with options := { p.options with report } }
  | .flag .check =>
    if p.options.check then none else some { p with options := { p.options with check := true } }
  | .flag .verbose =>
    if p.options.verbose then none
    else some { p with options := { p.options with verbose := true } }
  | _ => none

/-- Takes arguments in turn; a request for help or for the version ends the matter. -/
def takeAll (complete : Bool) (p : Pending) : List Argument → Command
  | [] =>
    match complete, p.dir with
    | true, some dir => .generate { p.options with dir }
    | _, _ => .refused
  | .flag .help :: _ => .help
  | .flag .version :: _ => .version
  | argument :: rest =>
    match take p argument with
    | some p => takeAll complete p rest
    | none => .refused

/-- The command that arguments stand for. -/
def command (arguments : List Text) : Command :=
  let reading := readAll arguments.length arguments
  takeAll reading.2 ⟨none, ⟨.empty, none, none, none, false, none, false⟩⟩ reading.1

end CommandLine

end TwoWaySql
