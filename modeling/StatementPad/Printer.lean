import StatementPad.Output

/-! # The printer of batch runs

Output of a run goes to one stream, and errors and announcements to the other, in colour if that is wanted.
What has been written is kept in order.
-/
namespace StatementPad

structure Printer where
  color : Bool
  written : List Chunk := []
  deriving DecidableEq, Repr

namespace Printer

def style (code : Text) : Text := "\x1b[" ++ code ++ "m"

def styled (p : Printer) (start stop t : Text) : Text := if p.color then style start ++ t ++ style stop else t

def write (p : Printer) (chunk : Chunk) : Printer := { p with written := p.written ++ [chunk] }

def writeOut (p : Printer) (t : Text) : Printer := p.write (.out t)

def writeError (p : Printer) (t : Text) : Printer := p.write (.err (p.styled "31" "39" t))

def writeChunk (p : Printer) (chunk : Chunk) : Printer :=
  match chunk.stream with
  | .out => p.writeOut chunk.text
  | .err => p.writeError chunk.text

def writeChunks (p : Printer) (chunks : List Chunk) : Printer := chunks.foldl writeChunk p

def banner (p : Printer) (t : Text) : Printer := p.write (.err (p.styled "2" "0" t ++ "\n"))

def notice (p : Printer) (t : Text) : Printer := p.write (.err (p.styled "33" "39" t ++ "\n"))

end Printer
end StatementPad
