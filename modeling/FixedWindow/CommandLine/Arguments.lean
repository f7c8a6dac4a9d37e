import FixedWindow.Number.Word

/-!
# Command-line arguments

A command line names a command, `check` or `ping`, and gives parameters to it. A parameter is given
by its long name or, if it has one, by its letter; its value is attached to the name or follows as
the next argument. The program itself takes the settings file, before the command or after it, and
each segment of the line has its own help.

The arguments are read from left to right. The values read so far are looked at whenever an option
is met and at the end, so that a request for help after a bad value is no request for help. A
command is followed before the values in front of it are looked at.

## Main definitions

* `Parameter`, `Segment`: what can be given, and where.
* `Argument`: an argument by its form.
* `scan`: the reading of one segment.
* `Request`, `Request.ofArguments?`: what the whole line asks for.
-/

namespace FixedWindow.CommandLine

/-- What can be given a value. -/
inductive Parameter
  | config
  | subject
  | limit
  | repeats
  | interval
  deriving DecidableEq, Repr

/-- How often to check, an unsigned word of 32 bits. -/
def readRepeats? (s : String) : Option Nat :=
  (Number.readInt64? s).bind fun n => if 0 ≤ n ∧ n < 4294967296 then some n.toNat else none

namespace Parameter

/-- The long name of a parameter. -/
def longName : Parameter → String
  | config => "config"
  | subject => "subject"
  | limit => "limit"
  | repeats => "repeat"
  | interval => "interval-ms"

/-- The letter of a parameter. -/
def letter? : Parameter → Option Char
  | config => some 'c'
  | subject => some 's'
  | limit => some 'l'
  | repeats => some 'n'
  | interval => none

/-- Whether a text is a value of a parameter. -/
def admits (p : Parameter) (value : String) : Bool :=
  match p with
  | config => value ≠ ""
  | subject => true
  | limit => (Number.readWord64? value).isSome
  | repeats => (readRepeats? value).isSome
  | interval => (Number.readWord64? value).isSome

end Parameter

/-- The part of a command line that is read: what stands in front of the command, or what follows
one. -/
inductive Segment
  | program
  | check
  | ping
  deriving DecidableEq, Repr

/-- The parameters that a segment takes. -/
def Segment.parameters : Segment → List Parameter
  | program => [.config]
  | check => [.subject, .limit, .repeats, .interval, .config]
  | ping => [.config]

/-- What the program can be told to do. -/
inductive Command
  | check
  | ping
  | help
  deriving DecidableEq, Repr

/-- The command of a name. -/
def Command.ofName? (name : String) : Option Command :=
  if name = "check" then some .check
  else if name = "ping" then some .ping
  else if name = "help" then some .help
  else none

/-- An argument by its form: two hyphens alone, an option by its long name with the value attached
to it, an option by its letter with what follows the letter, or anything else. -/
inductive Argument
  | stop
  | long (name : String) (value : Option String)
  | short (letter : Char) (rest : List Char)
  | plain (text : String)
  deriving DecidableEq, Repr

namespace Argument

/-- A name with the value behind its first equals sign. -/
def longOf (cs : List Char) : Argument :=
  match cs.span (· ≠ '=') with
  | (name, _ :: value) => .long (String.ofList name) (some (String.ofList value))
  | (name, []) => .long (String.ofList name) none

/-- The form of an argument. A single hyphen is no option. -/
def ofText (s : String) : Argument :=
  match s.toList with
  | ['-', '-'] => .stop
  | '-' :: '-' :: cs => longOf cs
  | '-' :: c :: cs => .short c cs
  | _ => .plain s

example : ofText "--config=a=b" = .long "config" (some "a=b") := by decide +kernel

example : ofText "-n3" = .short 'n' ['3'] := by decide +kernel

example : ofText "-" = .plain "-" := by decide +kernel

end Argument

/-- What an option asks for at a segment. -/
inductive Sense
  | help
  | version
  | awaits (p : Parameter)
  | gives (p : Parameter) (value : String)
  | nothing
  deriving DecidableEq, Repr

/-- A value attached to a letter may have one equals sign in front. -/
def attached : List Char → String
  | '=' :: cs => String.ofList cs
  | cs => String.ofList cs

/-- What an argument asks for at a segment, if it is an option there. -/
def Segment.sense (segment : Segment) : Argument → Sense
  | .long name value =>
    if name = "help" ∧ value = none then .help
    else if name = "version" ∧ value = none ∧ segment = .program then .version
    else
      match segment.parameters.find? fun p => p.longName = name, value with
      | some p, some v => .gives p v
      | some p, none => .awaits p
      | none, _ => .nothing
  | .short letter rest =>
    if letter = 'h' then .help
    else if letter = 'V' ∧ segment = .program then .version
    else
      match segment.parameters.find? fun p => p.letter? = some letter, rest with
      | some p, [] => .awaits p
      | some p, cs => .gives p (attached cs)
      | none, _ => .nothing
  | .stop | .plain _ => .nothing

/-- Values by their parameters, in the order of the line. -/
abbrev Given := List (Parameter × String)

/-- Whether values are in order: none is given twice, and each is one of its parameter. -/
def settled (given : Given) : Bool :=
  (given.map Prod.fst).Nodup && given.all fun (p, value) => p.admits value

/-- What the reading of a segment comes to: the end of the line, a command with what follows it,
help, the version, or a line that is not understood. -/
inductive Scan
  | done (given : Given)
  | command (c : Command) (given : Given) (rest : List String)
  | help
  | version
  | misuse
  deriving DecidableEq, Repr

/-- Reads a segment from the values so far, with the parameter that awaits its value. -/
def scan (segment : Segment) (awaiting : Option Parameter) (given : Given) : List String → Scan
  | [] => if awaiting = none ∧ settled given then .done given else .misuse
  | a :: rest =>
    match Argument.ofText a, awaiting with
    | .plain text, some p => scan segment none (given ++ [(p, text)]) rest
    | .plain text, none =>
      match segment, Command.ofName? text with
      | .program, some c => .command c given rest
      | _, _ => .misuse
    | _, some _ => .misuse
    | .stop, none => if rest = [] ∧ settled given then .done given else .misuse
    | option, none =>
      if settled given then
        match segment.sense option with
        | .help => .help
        | .version => .version
        | .awaits p => scan segment (some p) given rest
        | .gives p value =>
          if settled (given ++ [(p, value)]) then scan segment none (given ++ [(p, value)]) rest
          else .misuse
        | .nothing => .misuse
      else .misuse

/-- The work of a command. -/
inductive Job
  | ping
  | check (subject : String) (limit : Option Nat) (repeats : Nat) (interval : Span)
  deriving DecidableEq, Repr

/-- What a command line asks for. -/
inductive Request
  | help (about : Segment)
  | version
  | run (settingsFile : Option String) (job : Job)
  deriving DecidableEq, Repr

/-- What to check. The subject has to be given. -/
def checkJob? (given : Given) : Option Job :=
  (given.lookup .subject).map fun subject =>
    .check subject ((given.lookup .limit).bind Number.readWord64?)
      (((given.lookup .repeats).bind readRepeats?).getD 1)
      (.ofMillis (((given.lookup .interval).bind Number.readWord64?).getD 0))

/-- What the part of a line behind a command asks for. The settings file given there is taken before
one given in front of the command. -/
def Request.ofCommand? (segment : Segment) (front : Given) (job? : Given → Option Job)
    (rest : List String) : Option Request :=
  match scan segment none [] rest with
  | .help => some (.help segment)
  | .done given =>
    if settled front then
      (job? given).map (.run ((given.lookup .config).or (front.lookup .config)))
    else none
  | _ => none

/-- The segment that help is asked for by the words behind the command `help`. -/
def helpAbout? : List String → Option Segment
  | [] => some .program
  | [name] =>
    (Command.ofName? name).map fun
      | .check => .check
      | .ping => .ping
      | .help => .program
  | _ => none

/-- What a command line asks for, if it is understood. -/
def Request.ofArguments? (args : List String) : Option Request :=
  match scan .program none [] args with
  | .help => some (.help .program)
  | .version => some .version
  | .command .help _ rest => (helpAbout? rest).map .help
  | .command .ping front rest => ofCommand? .ping front (fun _ => some .ping) rest
  | .command .check front rest => ofCommand? .check front checkJob? rest
  | .done _ | .misuse => none

end FixedWindow.CommandLine
