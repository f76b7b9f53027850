import StatementPad.CommandLine

/-! # Help on the command line

What the program says about its arguments.
-/
namespace StatementPad

namespace CommandLine

def version : Text := "pypad 0.1.0\n"

def helpText : Text :=
  "Run Python files statement by statement\n" ++
  "\n" ++
  "Usage: pypad [OPTIONS] [FILES]...\n" ++
  "\n" ++
  "Arguments:\n" ++
  "  [FILES]...  Files to open. The first one is shown (and run in batch mode)\n" ++
  "\n" ++
  "Options:\n" ++
  "      --line <N>       Run the block at this line (1-based) and exit\n" ++
  "      --end-line <M>   Last line (1-based) of a selection starting at --line\n" ++
  "      --cell           Run the whole #%% cell around --line instead of one statement\n" ++
  "      --all            Step through the whole file block by block\n" ++
  "      --in-place       Keep the cursor where it is after running (interactive mode)\n" ++
  "      --python <PATH>  Python interpreter to start\n" ++
  "  -v, --verbose        Log debug output\n" ++
  "  -h, --help           Print help\n" ++
  "  -V, --version        Print version\n"

end CommandLine

namespace UsageError

def message : UsageError → Text
  | unknownArgument => "error: an argument is not known\n"
  | invalidValue => "error: an argument lacks its value\n"
  | notANumber => "error: a line is not a number\n"
  | tooManyValues => "error: an argument takes no value\n"
  | argumentConflict => "error: arguments exclude each other\n"
  | missingArgument => "error: '--end-line' needs '--line'\n"
  | displayHelp => CommandLine.helpText
  | displayVersion => CommandLine.version

def isMistake : UsageError → Bool
  | displayHelp | displayVersion => false
  | _ => true

end UsageError
end StatementPad
