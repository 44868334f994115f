import BtrfsStore.Init
/-!
# BtrfsStore.CommandLine

The command line: `sqlrs [-v] init [OPTIONS]`.

Arguments are read from left to right, and the first fault decides. A setting
takes its value from the same argument after `=`, or from the next one; then
the value is looked at only when the next argument turns out to be sound, or at
the end.
-/

namespace BtrfsStore.CommandLine

/-! ### Arguments -/

/-- An option without a value. -/
inductive Flag where
  | verbose
  | update
  | reinit
  | noStart
  | json
  | help
  | version
  deriving Repr, DecidableEq

/-- An option with a value. -/
inductive Setting where
  | workspace
  | snapshot
  | store
  | storePath
  | storeSize
  | distro
  deriving Repr, DecidableEq

/-- An option. -/
inductive Argument where
  | flag (f : Flag)
  | setting (s : Setting)
  deriving Repr, DecidableEq

/-- The options of one command: their long names and their letters. -/
structure Options where
  long : List (String × Argument)
  short : List (Char × Argument)

/-- The options in front of the command. -/
def outerOptions : Options where
  long := [("verbose", .flag .verbose), ("help", .flag .help), ("version", .flag .version)]
  short := [('v', .flag .verbose), ('h', .flag .help), ('V', .flag .version)]

/-- The options of the command `init`. -/
def initOptions : Options where
  long :=
    [("workspace", .setting .workspace), ("snapshot", .setting .snapshot),
      ("store", .setting .store), ("store-path", .setting .storePath),
      ("store-size", .setting .storeSize), ("update", .flag .update), ("reinit", .flag .reinit),
      ("distro", .setting .distro), ("no-start", .flag .noStart), ("json", .flag .json),
      ("verbose", .flag .verbose), ("help", .flag .help)]
  short := [('v', .flag .verbose), ('h', .flag .help)]

/-! ### Faults -/

/-- Why a command line is not run. -/
inductive UsageFault where
  /-- A value is missing. -/
  | invalidValue
  | unknownArgument
  | invalidSubcommand
  /-- A value is malformed. -/
  | valueValidation
  /-- A flag is given a value. -/
  | tooManyValues
  /-- An option is given twice. -/
  | argumentConflict
  | missingSubcommand
  | displayHelp
  | displayVersion
  /-- There is nothing on the command line. -/
  | displayHelpOnMissing
  deriving Repr, DecidableEq

/-! ### Values -/

/-- The options with a setting changed. -/
def Setting.apply (s : Setting) (value : String) (o : InitOptions) :
    Except UsageFault InitOptions :=
  match s with
  | .workspace =>
    if value.isEmpty then .error .invalidValue else .ok { o with workspace := ⟨value⟩ }
  | .snapshot =>
    match SnapshotBackend.ofName? value with
    | some backend => .ok { o with snapshot := backend }
    | none => .error .valueValidation
  | .store =>
    match StoreKind.ofName? value with
    | some kind => .ok { o with storeKind := kind }
    | none => .error .valueValidation
  | .storePath =>
    if value.isEmpty then .error .invalidValue else .ok { o with storePath := some ⟨value⟩ }
  | .storeSize =>
    match Text.readNat Text.word64 value with
    | .ok n => .ok { o with storeSize := some n }
    | .error _ => .error .valueValidation
  | .distro => .ok { o with distro := some value }

/-- The options with a flag set. -/
def Flag.apply (f : Flag) (o : InitOptions) : InitOptions :=
  match f with
  | .update => { o with update := true }
  | .reinit => { o with reinit := true }
  | .noStart => { o with noStart := true }
  | .json => { o with json := true }
  | .verbose | .help | .version => o

/-! ### Reading options -/

/-- What has been read of the options of one command. -/
structure Progress where
  options : InitOptions := {}
  verbose : Bool := false
  /-- The options that were given. -/
  given : List Argument := []
  /-- A setting whose value is still to be looked at, or to come. -/
  pending : Option (Setting × Option String) := none

namespace Progress

/-- Notes an option, which may be given only once. -/
def note (p : Progress) (a : Argument) : Except UsageFault Progress :=
  if a ∈ p.given then .error .argumentConflict else .ok { p with given := a :: p.given }

/-- Takes a setting with its value. -/
def take (p : Progress) (s : Setting) (value : String) : Except UsageFault Progress := do
  let p ← p.note (.setting s)
  pure { p with options := ← s.apply value p.options }

/-- Looks at the value of the pending setting. -/
def settle (p : Progress) : Except UsageFault Progress :=
  match p.pending with
  | none => .ok p
  | some (_, none) => .error .invalidValue
  | some (s, some value) => ({ p with pending := none }).take s value

/-- Takes a flag. -/
def setFlag (p : Progress) (f : Flag) : Except UsageFault Progress := do
  let p ← p.settle
  match f with
  | .help => .error .displayHelp
  | .version => .error .displayVersion
  | f =>
    let p ← p.note (.flag f)
    pure { p with options := f.apply p.options, verbose := p.verbose || f == .verbose }

/-- Takes an option by its long name, with the value after `=` if there is
one. -/
def takeLong (known : Options) (p : Progress) (name : String) (value : Option String) :
    Except UsageFault Progress :=
  match known.long.lookup name, value with
  | none, _ => .error .unknownArgument
  | some (.flag _), some _ => .error .tooManyValues
  | some (.flag f), none => p.setFlag f
  | some (.setting s), some value => do (← p.settle).take s value
  | some (.setting s), none => do
    let p ← p.settle
    pure { p with pending := some (s, none) }

/-- Takes the flags of a group of letters. -/
def takeLetters (known : Options) : List Char → Progress → Except UsageFault Progress
  | [], p => .ok p
  | c :: cs, p =>
    match known.short.lookup c with
    | some (.flag f) => do takeLetters known cs (← p.setFlag f)
    | _ => .error .unknownArgument

end Progress

/-- What an argument looks like. -/
inductive Shape where
  /-- Two dashes, after which no option comes. -/
  | escape
  | long (name : String) (value : Option String)
  | letters (cs : List Char)
  | word
  deriving Repr, DecidableEq

/-- The shape of an argument. -/
def shapeOf (arg : String) : Shape :=
  match arg.toList with
  | ['-', '-'] => .escape
  | '-' :: '-' :: cs =>
    let name := cs.takeWhile (· != '=')
    match cs.drop name.length with
    | _ :: value => .long (String.ofList name) (some (String.ofList value))
    | [] => .long (String.ofList name) none
  | '-' :: c :: cs => .letters (c :: cs)
  | _ => .word

/-! ### Commands -/

/-- Reads the arguments of the command `init`. -/
def readInit : List String → Progress → Except UsageFault Progress
  | [], p => p.settle
  | arg :: rest, p =>
    match shapeOf arg with
    | .escape => if rest.isEmpty then p.settle else .error .unknownArgument
    | .long name value => do readInit rest (← p.takeLong initOptions name value)
    | .letters cs => do readInit rest (← p.takeLetters initOptions cs)
    | .word =>
      match p.pending with
      | some (s, none) => readInit rest { p with pending := some (s, some arg) }
      | _ => .error .unknownArgument

/-- The names of the commands. -/
def commandNames : List String := ["init", "help"]

/-- The fault of a request for help on a command. -/
def helpOn : List String → UsageFault
  | [] => .displayHelp
  | [name] => if name ∈ commandNames then .displayHelp else .invalidSubcommand
  | _ => .invalidSubcommand

/-- A command line that can be run. -/
structure Parsed where
  verbose : Bool
  options : InitOptions
  deriving Repr, DecidableEq

/-- Reads the arguments in front of the command and the command. -/
def readOuter : List String → Progress → Except UsageFault Parsed
  | [], p => .error (if p.verbose then .missingSubcommand else .displayHelpOnMissing)
  | arg :: rest, p =>
    if arg = "init" then do
      let q ← readInit rest {}
      pure { verbose := p.verbose || q.verbose, options := q.options }
    else if arg = "help" then .error (helpOn rest)
    else
      match shapeOf arg with
      | .escape =>
        match rest with
        | [] => .error (if p.verbose then .missingSubcommand else .displayHelpOnMissing)
        | next :: _ =>
          .error (if next ∈ commandNames then .unknownArgument else .invalidSubcommand)
      | .long name value => do readOuter rest (← p.takeLong outerOptions name value)
      | .letters cs => do readOuter rest (← p.takeLetters outerOptions cs)
      | .word => .error .invalidSubcommand

/-- Reads the arguments of the program. -/
def parse (args : List String) : Except UsageFault Parsed := readOuter args {}

/-! ### Running -/

/-- How the program ends. -/
structure Ended where
  exitCode : Nat
  stdout : String := ""
  stderr : String := ""
  deriving Repr, DecidableEq

/-- The version that the program shows. -/
def versionText : String := "sqlrs 0.1.0\n"

/-- The summary of the command line. -/
def usageText : String :=
  "Instant database snapshots backed by copy-on-write storage\n\n"
    ++ "Usage: sqlrs [OPTIONS] <COMMAND>\n\n"
    ++ "Commands:\n"
    ++ "  init  Initialize a workspace and prepare its snapshot store\n"
    ++ "  help  Print this message or the help of the given subcommand(s)\n\n"
    ++ "Options:\n"
    ++ "  -v, --verbose  Log every external command and keep cleanup diagnostics\n"
    ++ "  -h, --help     Print help\n"
    ++ "  -V, --version  Print version\n"

/-- How the program ends without running a command. -/
def UsageFault.ended : UsageFault → Ended
  | .displayVersion => { exitCode := 0, stdout := versionText }
  | .displayHelp => { exitCode := 0, stdout := usageText }
  | _ => { exitCode := 2, stderr := usageText }

/-- The store root for an environment, in which blank variables do not
count. -/
def storeRoot (platform : Platform) (environment : String → Option String) : Option Path :=
  StoreRoot.resolve (fun name => (environment name).filter (!Text.isBlankText ·))
    (platform = .windows)

/-- How the program ends after a run. -/
def endedOf (shown : Init.Shown) : Ended :=
  match shown.report with
  | .ok text => { exitCode := 0, stdout := text, stderr := shown.warnings }
  | .error fault => { exitCode := 1, stderr := shown.warnings ++ fault.report }

/-- Runs the program with the given arguments. -/
def run (platform : Platform) (environment : String → Option String) (args : List String) :
    Action Ended :=
  match parse args with
  | .error fault => pure fault.ended
  | .ok parsed => do
    let root := storeRoot platform environment
    pure (endedOf (← Init.run parsed.options platform parsed.verbose root))

end BtrfsStore.CommandLine
