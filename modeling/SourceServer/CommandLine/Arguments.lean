import SourceServer.Path

/-!
# Arguments

What the user types: a verb, its operands and its options. A long option takes its value behind an
equals sign or as the next argument, a short one also without anything between. Two hyphens end the
options. No option is given twice.

- `Verb`, `Switch`: the words of the command line.
- `Command`, `Invocation`: what a command line asks for.
- `Arguments.parse`: reading a command line.
- `UsageError`: why it cannot be read.
-/

namespace SourceServer

/-- What the program can be told to do. -/
inductive Verb where
  | link
  | linkPdb
  | checksums
  | verify
deriving DecidableEq

/-- What the user calls a verb. -/
def Verb.name : Verb → String
  | .link => "link"
  | .linkPdb => "link-pdb"
  | .checksums => "checksums"
  | .verify => "verify"

/-- All verbs. -/
def Verb.all : List Verb := [.link, .linkPdb, .checksums, .verify]

/-- The verb of a name. -/
def Verb.ofName? (name : String) : Option Verb :=
  Verb.all.find? fun verb => verb.name == name

/-- The options. -/
inductive Switch where
  | logFile
  | url
  | commit
  | baseDirectory
  | powershell
  | skipVerify
  | errorsAsWarnings
  | backslashes
  | lf
  | jobs
  | sources
  | listing
  | help
deriving DecidableEq

namespace Switch

/-- What may stand behind an option. -/
inductive Operand where
  | nothing
  | text
  /-- A path is not empty. -/
  | path
  | number
deriving DecidableEq

/-- The long form of an option. -/
def name : Switch → String
  | .logFile => "log-file"
  | .url => "url"
  | .commit => "commit"
  | .baseDirectory => "base-dir"
  | .powershell => "powershell"
  | .skipVerify => "skip-verify"
  | .errorsAsWarnings => "errors-as-warnings"
  | .backslashes => "backslashes"
  | .lf => "lf"
  | .jobs => "jobs"
  | .sources => "sources"
  | .listing => "srctool-output"
  | .help => "help"

/-- The short form of an option. -/
def letter? : Switch → Option Char
  | .url => some 'u'
  | .commit => some 'c'
  | .jobs => some 'j'
  | .help => some 'h'
  | _ => none

/-- What stands behind an option. -/
def operand : Switch → Operand
  | .url | .commit => .text
  | .logFile | .baseDirectory | .sources | .listing => .path
  | .jobs => .number
  | .powershell | .skipVerify | .errorsAsWarnings | .backslashes | .lf | .help => .nothing

end Switch

/-- The options in front of the verb. -/
def globalSwitches : List Switch := [.logFile, .help]

/-- The options of everything that writes indexes. -/
def linkSwitches : List Switch :=
  [.url, .commit, .baseDirectory, .powershell, .skipVerify, .errorsAsWarnings, .backslashes, .lf]

/-- The options behind a verb. -/
def Verb.switches : Verb → List Switch
  | .link => linkSwitches ++ [.jobs] ++ globalSwitches
  | .linkPdb => linkSwitches ++ [.sources, .listing] ++ globalSwitches
  | .checksums | .verify => globalSwitches

/-- The options that a verb cannot do without. -/
def Verb.required : Verb → List Switch
  | .link | .linkPdb => [.url, .commit]
  | .checksums | .verify => []

/-- The most operands of a verb, if there is a limit. -/
def Verb.mostOperands? : Verb → Option Nat
  | .link | .linkPdb | .checksums => some 1
  | .verify => none

/-! ## What a command line asks for -/

/-- What is asked of everything that writes indexes (`LinkArgs`). -/
structure LinkArguments where
  url : String
  commit : String
  /-- The directory that entries are relative to; without it the current one. -/
  baseDirectory : Option Path
  powershell : Bool
  skipVerify : Bool
  errorsAsWarnings : Bool
  backslashes : Bool
  lf : Bool

/-- What the program is to do (`CliCommand`). -/
inductive Command where
  /-- Index every symbol file below a directory. -/
  | link (directory : Path) (arguments : LinkArguments) (jobs : Option Nat)
  /-- Index one symbol file. -/
  | linkPdb (pdb : Path) (arguments : LinkArguments) (sources listing : Option Path)
  /-- Print what a symbol file records. -/
  | checksums (pdb : Path)
  /-- Compare what a symbol file records with files. -/
  | verify (pdb : Path) (sources : List Path)

/-- A command line. -/
structure Invocation where
  logFile : Option Path
  command : Command

/-- Why a command line cannot be read. -/
inductive UsageError where
  | unknownOption (word : String)
  | repeated (option : Switch)
  | valueMissing (option : Switch)
  | valueUnwanted (option : Switch)
  | emptyPath
  | notNumber (text : String)
  | operandUnwanted (text : String)
  | operandMissing
  | optionMissing (option : Switch)
  | unknownVerb (word : String)
  | verbMissing
deriving DecidableEq

/-- The wording of an error. -/
def UsageError.message : UsageError → String
  | .unknownOption word => "unexpected argument '" ++ word ++ "' found"
  | .repeated option => "the argument '--" ++ option.name ++ "' cannot be used multiple times"
  | .valueMissing option =>
    "a value is required for '--" ++ option.name ++ "' but none was supplied"
  | .valueUnwanted option =>
    "unexpected value for '--" ++ option.name ++ "' found; no more were expected"
  | .emptyPath => "a value is required but none was supplied"
  | .notNumber text => "invalid value '" ++ text ++ "' for '--jobs'"
  | .operandUnwanted text => "unexpected argument '" ++ text ++ "' found"
  | .operandMissing => "a required argument was not provided"
  | .optionMissing option =>
    "the required argument '--" ++ option.name ++ "' was not provided"
  | .unknownVerb word => "unrecognized subcommand '" ++ word ++ "'"
  | .verbMissing => "a subcommand is required but one was not provided"

/-- Why reading ends before the end of the command line. -/
inductive Interruption where
  /-- The user asks what a verb, or the whole program, does. -/
  | help (verb : Option Verb)
  | misuse (error : UsageError)
deriving DecidableEq

namespace Arguments

/-! ## Words -/

/-- An argument by its form. -/
inductive Word where
  /-- Two hyphens alone. -/
  | ending
  | long (name : String) (attached : Option String)
  /-- A short option and what is attached to it. -/
  | short (letter : Char) (attached : Option String)
  | plain
deriving DecidableEq

/-- A name and what stands behind the first equals sign. -/
def longWord (text : List Char) : Word :=
  match text.span (· != '=') with
  | (name, []) => .long (String.ofList name) none
  | (name, _ :: value) => .long (String.ofList name) (some (String.ofList value))

/-- What is attached to a short option, without an equals sign in front. -/
def attached : List Char → Option String
  | [] => none
  | '=' :: value => some (String.ofList value)
  | value => some (String.ofList value)

/-- The form of an argument. -/
def Word.ofText (text : String) : Word :=
  match text.toList with
  | ['-', '-'] => .ending
  | '-' :: '-' :: rest => longWord rest
  | '-' :: letter :: rest => .short letter (attached rest)
  | _ => .plain

/-! ## Reading -/

/-- What has been read. -/
structure Reading where
  options : List (Switch × String)
  operands : List Path
  /-- The option whose value comes next. -/
  pending : Option Switch
  /-- Whether the options have ended. -/
  ended : Bool

/-- Nothing has been read. -/
def Reading.empty : Reading := ⟨[], [], none, false⟩

/-- The largest number that can be given. -/
def largestNumber : Nat := 0xffffffffffffffff

/-- The number of a row of digits, which a plus sign may stand in front of. -/
def number? (text : String) : Option Nat :=
  let digits :=
    match text.toList with
    | '+' :: rest => rest
    | digits => digits
  if digits.isEmpty ∨ !digits.all Char.isDigit then none
  else
    let n := digits.foldl (fun n c => 10 * n + (c.toNat - '0'.toNat)) 0
    if n ≤ largestNumber then some n else none

/-- Whether a text can be the value of an option. -/
def checkValue (option : Switch) (value : String) : Except UsageError Unit :=
  match option.operand with
  | .path => if value = "" then .error .emptyPath else .ok ()
  | .number => if (number? value).isNone then .error (.notNumber value) else .ok ()
  | .nothing | .text => .ok ()

namespace Reading

/-- One more option with its value. -/
def give (r : Reading) (option : Switch) (value : String) : Except UsageError Reading := do
  if (r.options.lookup option).isSome then throw (.repeated option)
  checkValue option value
  return { r with options := r.options ++ [(option, value)], pending := none }

/-- One more option in one of its forms. -/
def option (r : Reading) (found : Option Switch) (word : String) (attached : Option String) :
    Except UsageError Reading :=
  match found with
  | none => .error (.unknownOption word)
  | some option =>
    match option.operand, attached with
    | .nothing, none => r.give option ""
    | .nothing, some _ => .error (.valueUnwanted option)
    | _, some value => r.give option value
    | _, none => .ok { r with pending := some option }

/-- One more operand, which is a path; there may be a limit to their number. -/
def operand (r : Reading) (most? : Option Nat) (text : String) : Except UsageError Reading :=
  if most?.any (· ≤ r.operands.length) then .error (.operandUnwanted text)
  else if text = "" then .error .emptyPath
  else .ok { r with operands := r.operands ++ [⟨text⟩] }

/-- Reads one argument. A short form asks for help even when more is attached to it. -/
def step (allowed : List Switch) (most? : Option Nat) (r : Reading) (word : String) :
    Except UsageError Reading :=
  if r.ended then r.operand most? word
  else
    match Word.ofText word, r.pending with
    | .plain, some option => r.give option word
    | .plain, none => r.operand most? word
    | _, some option => .error (.valueMissing option)
    | .ending, none => .ok { r with ended := true }
    | .long name attached, none =>
      r.option (allowed.find? fun option => option.name == name) word attached
    | .short letter attached, none =>
      let found := allowed.find? fun option => option.letter? == some letter
      r.option found word (if found = some .help then none else attached)

/-- Whether help has been asked for. -/
def asksForHelp (r : Reading) : Bool :=
  (r.options.lookup .help).isSome

/-- The value of an option. -/
def value? (r : Reading) (option : Switch) : Option String :=
  r.options.lookup option

/-- The value of an option that is a path. -/
def path? (r : Reading) (option : Switch) : Option Path :=
  (r.value? option).map Path.mk

/-- Whether an option is given. -/
def has (r : Reading) (option : Switch) : Bool :=
  (r.value? option).isSome

/-- The value of an option that a verb cannot do without. -/
def demand (r : Reading) (option : Switch) : Except UsageError String :=
  match r.value? option with
  | some value => .ok value
  | none => .error (.optionMissing option)

/-- No option waits for its value. -/
def finish (r : Reading) : Except UsageError Unit :=
  match r.pending with
  | some option => .error (.valueMissing option)
  | none => .ok ()

end Reading

/-- An error as the end of reading. -/
def misuse {α : Type} (r : Except UsageError α) : Except Interruption α :=
  r.mapError .misuse

/-- Reads arguments one by one, up to the first that asks for help. -/
def readAll (verb : Verb) : Reading → List String → Except Interruption Reading
  | r, [] => do
    misuse r.finish
    return r
  | r, word :: rest => do
    let r ← misuse (r.step verb.switches verb.mostOperands? word)
    if r.asksForHelp then throw (.help (some verb))
    readAll verb r rest

/-- Reads the options in front of the verb: what was read, and the arguments from the verb on. -/
def readFront : Reading → List String → Except Interruption (Reading × List String)
  | r, [] => do
    misuse r.finish
    return (r, [])
  | r, word :: rest =>
    if r.ended ∨ (Word.ofText word = .plain ∧ r.pending = none) then .ok (r, word :: rest)
    else do
      let r ← misuse (r.step globalSwitches (some 0) word)
      if r.asksForHelp then throw (.help none)
      readFront r rest

/-! ## Meaning -/

/-- What is asked of a verb that writes indexes. -/
def linkArguments (r : Reading) : Except UsageError LinkArguments := do
  return {
    url := ← r.demand .url
    commit := ← r.demand .commit
    baseDirectory := r.path? .baseDirectory
    powershell := r.has .powershell
    skipVerify := r.has .skipVerify
    errorsAsWarnings := r.has .errorsAsWarnings
    backslashes := r.has .backslashes
    lf := r.has .lf }

/-- The command that a verb, its options and its operands ask for. -/
def command (verb : Verb) (r : Reading) : Except UsageError Command := do
  match r.operands with
  | [] => throw .operandMissing
  | first :: others =>
    match verb with
    | .link => return .link first (← linkArguments r) ((r.value? .jobs).bind number?)
    | .linkPdb => return .linkPdb first (← linkArguments r) (r.path? .sources) (r.path? .listing)
    | .checksums => return .checksums first
    | .verify => return .verify first others

/-- Asking for help on the program or on a verb, as a verb of its own. -/
def helpRequest : List String → Interruption
  | [] | ["help"] => .help none
  | [name] =>
    match Verb.ofName? name with
    | some verb => .help (some verb)
    | none => .misuse (.unknownVerb name)
  | "help" :: name :: _ => .misuse (.unknownVerb name)
  | name :: extra :: _ =>
    match Verb.ofName? name with
    | some _ => .misuse (.unknownVerb extra)
    | none => .misuse (.unknownVerb name)

/-- Reads a command line. An option that may stand on both sides of the verb counts behind it. -/
def parse (arguments : List String) : Except Interruption Invocation := do
  let (front, rest) ← readFront .empty arguments
  match rest with
  | [] => throw (.misuse .verbMissing)
  | word :: rest =>
    if !front.ended ∧ word = "help" then throw (helpRequest rest)
    match if front.ended then none else Verb.ofName? word with
    | none => throw (.misuse (.unknownVerb word))
    | some verb =>
      let r ← readAll verb .empty rest
      let command ← misuse (command verb r)
      return ⟨(r.path? .logFile).orElse fun _ => front.path? .logFile, command⟩

end Arguments

end SourceServer
