import StatementPad.Document.File
import StatementPad.Run.Request

/-! # Requests of documents

What a document asks to be run.
-/
namespace StatementPad

def Document.request (d : Document) (cwd : Text) (mode : RunMode) : RunRequest :=
  { buffer := d.id
    filename := d.sourceName
    workingDir := d.workingDir cwd
    snapshot := d.lines
    selection := d.lineSelection
    mode }

end StatementPad
