import StatementPad.Path

/-! # The directories of a user

Where a user keeps files, and where programs are. The environment may name another home, other places for
settings and caches, and other directories of programs; a place that is not absolute is passed over.
-/
namespace StatementPad

structure UserDirs where
  home : Text
  config : Text
  cache : Text
  programs : List Text
  deriving DecidableEq, Repr

namespace UserDirs

/-- The directories in an environment; of two values for a name, the later one counts. -/
def ofEnvironment (home : Text) (env : List (Text × Text)) : UserDirs :=
  let value? (name : Text) : Option Text := env.reverse.lookup name
  let home := ((value? "HOME").filter (!·.isEmpty)).getD home
  let place (name folder : Text) : Text := ((value? name).filter Path.isAbsolute).getD (Path.join home folder)
  { home
    config := place "XDG_CONFIG_HOME" ".config"
    cache := place "XDG_CACHE_HOME" ".cache"
    programs := ((value? "PATH").map (Text.split ':')).getD ["/bin", "/usr/bin"] }

def settingsFile (d : UserDirs) : Text := Path.join d.config "pypad/.pypadrc"

def logFile (d : UserDirs) : Text := Path.join d.cache "pypad/pypad.log"

def snippetLog (d : UserDirs) : Text := Path.join d.home "codeSnippetsLog.txt"

end UserDirs
end StatementPad
