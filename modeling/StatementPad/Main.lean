import StatementPad.Program

/-! # The command line program

Collects what the program needs of its surroundings and makes a batch run. Processes are not in the reach of
this program: it says so when a run gets as far as to need an interpreter.
-/
namespace StatementPad

def noInterpreter : Interpreter Unit :=
  ⟨fun _ spec _ => (some (.spawn spec.program "Operation not permitted (os error 1)"), ()),
    fun _ _ => (⟨[], true⟩, ())⟩

/-- Takes a file of the system into the tree; what can be named but not read is a directory. -/
def importFile (fs : Files) (path : Text) : IO Files := do
  try
    let content ← IO.FS.readBinFile (String.ofList path)
    pure (fs.plant path (.file content.toList))
  catch
    | .noFileOrDirectory .. => pure fs
    | _ => pure (fs.plant path .dir)

def settingNames : List String :=
  ["PYPAD_PYTHON", "PYPAD_COMPILE_TIMEOUT_MS", "PYPAD_FLUSH_INTERVAL_MS", "PYPAD_MAX_CONSOLE_LINES",
   "PYPAD_ADVANCE_CURSOR", "PYPAD_CELL_HIGHLIGHT", "PYPAD_MATPLOTLIB", "PYPAD_SNIPPET_LOG", "PYPAD_LOG_FILE",
   "HOME", "XDG_CONFIG_HOME", "XDG_CACHE_HOME", "PATH"]

def readEnvironment : IO (List (Text × Text)) := do
  let values ← settingNames.mapM fun name => do pure (name, ← IO.getEnv name)
  pure (values.filterMap fun (name, value?) => value?.map fun value => (name.toList, value.toList))

def readSurroundings (paths : List Text) : IO Surroundings := do
  let cwd := (← IO.currentDir).toString.toList
  let environment ← readEnvironment
  let all := (UserDirs.ofEnvironment cwd environment).settingsFile :: paths
  let files ← all.foldlM importFile (Files.emptyAt (Path.parts cwd))
  pure { files, cwd, home := cwd, environment }

def finish (e : Ending) : IO UInt32 := do
  IO.print (String.ofList (Chunk.on .out e.written))
  IO.eprint (String.ofList (Chunk.on .err e.written))
  pure e.code.toUInt32

def runProgram (args : List Text) : IO UInt32 := do
  match CommandLine.parse args with
  | .error e => finish (.ofUsage e)
  | .ok c => finish (Program.runBatch noInterpreter (← readSurroundings c.files) false c ()).1

end StatementPad

def main (args : List String) : IO UInt32 := StatementPad.runProgram (args.map String.toList)
