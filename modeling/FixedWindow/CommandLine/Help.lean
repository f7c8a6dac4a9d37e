import FixedWindow.CommandLine.Arguments

/-!
# Help

The pages that the program shows when it is asked for help, and the line that names its version.

## Main definitions

* `programName`, `version`, `versionLine`.
* `helpPage`: the help on a segment.
-/

namespace FixedWindow.CommandLine

/-- The name of the program. -/
def programName : String := "tierlimit"

/-- The version of the program. -/
def version : String := "0.1.0"

/-- The line that names the version of the program. -/
def versionLine : String := programName ++ " " ++ version

/-- The value that a parameter takes, as help pages show it. -/
def Parameter.placeholder : Parameter → String
  | config => "<CONFIG>"
  | subject => "<SUBJECT>"
  | limit => "<LIMIT>"
  | repeats => "<REPEAT>"
  | interval => "<INTERVAL_MS>"

/-- What a parameter is for. -/
def Parameter.purpose : Parameter → String
  | config => "Path to a YAML configuration file"
  | subject => "Identity being rate limited"
  | limit => "Requests allowed per window (defaults to rate_limiting.default_limit)"
  | repeats => "Number of consecutive checks [default: 1]"
  | interval => "Pause between checks, in milliseconds [default: 0]"

/-- What a segment is for. -/
def Segment.purpose : Segment → String
  | program => "Two-tier fixed-window rate limiter backed by a shared counter store"
  | check => "Run admission checks for a subject and print each decision as JSON"
  | ping => "Probe the configured counter store"

/-- How a segment is used. -/
def Segment.usage : Segment → String
  | program => programName ++ " [OPTIONS] <COMMAND>"
  | check => programName ++ " check [OPTIONS] --subject <SUBJECT>"
  | ping => programName ++ " ping [OPTIONS]"

/-- A text filled with blanks on the right. -/
def filled (width : Nat) (s : String) : String := s.pushn ' ' (width - s.length)

/-- The line for an option, with its letter if it has one. -/
def optionLine (letter? : Option Char) (name purpose : String) : String :=
  let lead := match letter? with
    | some letter => "  -" ++ letter.toString ++ ", "
    | none => "      "
  filled 35 (lead ++ "--" ++ name) ++ purpose ++ "\n"

/-- The lines for the commands. -/
def commandLines : String :=
  "\nCommands:\n"
    ++ "  check  " ++ Segment.check.purpose ++ "\n"
    ++ "  ping   " ++ Segment.ping.purpose ++ "\n"
    ++ "  help   Print this message or the help of the given subcommand(s)\n"

/-- The help on a segment. -/
def helpPage (segment : Segment) : String :=
  segment.purpose ++ "\n\nUsage: " ++ segment.usage ++ "\n"
    ++ (if segment = .program then commandLines else "")
    ++ "\nOptions:\n"
    ++ String.join (segment.parameters.map fun p =>
        optionLine p.letter? (p.longName ++ " " ++ p.placeholder) p.purpose)
    ++ optionLine (some 'h') "help" "Print help"
    ++ (if segment = .program then optionLine (some 'V') "version" "Print version" else "")

end FixedWindow.CommandLine
