import CommandShell.Text.Blank
import CommandShell.Text.Utf8

/-!
# `CommandShell.Settings` — what the environment says

The shell reads four environment variables once, when it starts.

## Contents
- **Variables.** `Environment`, a list of names and values, and the names that matter.
- **Levels.** `Level`, how much is logged, with its names in any case of letters.
- **Settings.** `Settings.ofEnvironment`: the search path is split at colons, an empty home or log
  file counts as unset, and a log level that is no level means `info`.
-/

namespace CommandShell

/-! ## Variables -/

/-- Environment variables with their values; the first entry of a name holds. -/
abbrev Environment := List (Text × Bytes)

namespace Environment

/-- The value of a variable, if it is set. -/
def get? (vars : Environment) (name : Text) : Option Bytes := vars.lookup name

/-- The variable that holds the search path. -/
def searchPathName : Text := "PATH".toList

/-- The variable that names the home directory. -/
def homeName : Text := "HOME".toList

/-- The variable that names the log file. -/
def logFileName : Text := "MYSHELL_LOG".toList

/-- The variable that says how much is logged. -/
def logLevelName : Text := "MYSHELL_LOG_LEVEL".toList

/-- The variables that the shell reads. -/
def names : List Text := [searchPathName, homeName, logFileName, logLevelName]

/-- The entries of a search path: the parts between its colons, empty ones included. -/
def splitSearchPath (value : Bytes) : List Path := Bytes.splitOn Bytes.colon value

end Environment

/-! ## Log levels -/

/-- How much is logged: what a level names and all that is graver. -/
inductive Level where
  | off
  | error
  | warn
  | info
  | debug
  | trace
  deriving DecidableEq, Repr

namespace Level

/-- The name of a level, as it is printed. -/
def name : Level → Text
  | .off => "OFF".toList
  | .error => "ERROR".toList
  | .warn => "WARN".toList
  | .info => "INFO".toList
  | .debug => "DEBUG".toList
  | .trace => "TRACE".toList

/-- The rank of a level: the more is logged, the higher. -/
def rank : Level → Nat
  | .off => 0
  | .error => 1
  | .warn => 2
  | .info => 3
  | .debug => 4
  | .trace => 5

/-- Every level, from the least to the most talkative. -/
def all : List Level := [.off, .error, .warn, .info, .debug, .trace]

/-- Whether two texts differ at most in the case of the letters A to Z. -/
def sameLetters (s t : Text) : Bool := s.map Char.toUpper == t.map Char.toUpper

/-- The level that a text names, in whatever case. -/
def ofText? (s : Text) : Option Level := all.find? fun l => sameLetters l.name s

end Level

/-! ## Settings -/

/-- What the shell knows from its start on. -/
structure Settings where
  /-- The directories searched for programs, in order. -/
  searchPath : List Path
  /-- Where `cd` goes by default, and what a leading tilde stands for. -/
  home : Option Path
  /-- Shown before each line. -/
  prompt : Text
  /-- The log file; nothing is logged without one. -/
  logFile : Option Path
  /-- How much is logged. -/
  logLevel : Level
  deriving DecidableEq, Repr

namespace Settings

/-- The prompt: a dollar sign and a space. -/
def defaultPrompt : Text := ['$', ' ']

/-- The log level that a variable's value stands for: a value that is no text, or no level once the
    blanks around it are gone, means `info`. -/
def levelOf (value : Option Bytes) : Level :=
  ((value.bind Utf8.decode?).bind fun s => Level.ofText? (Text.trim s)).getD .info

/-- The settings that some environment variables make. -/
def ofEnvironment (vars : Environment) : Settings where
  searchPath := ((vars.get? Environment.searchPathName).map Environment.splitSearchPath).getD []
  home := (vars.get? Environment.homeName).filter fun p => !p.isEmpty
  prompt := defaultPrompt
  logFile := (vars.get? Environment.logFileName).filter fun p => !p.isEmpty
  logLevel := levelOf (vars.get? Environment.logLevelName)

end Settings

end CommandShell
