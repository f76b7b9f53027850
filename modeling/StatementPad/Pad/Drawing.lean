import StatementPad.Document.File
import StatementPad.Pad
import StatementPad.Screen
import StatementPad.Text.Wrapped

/-! # Drawing the pad

From top to bottom a screen holds the editor pane, the console pane and the status bar; the help covers the
middle of it. Lines that are too long are cut, but the help is wrapped. The column of the cursor is computed
in sixteen bits.
-/
namespace StatementPad
namespace Pad

/-! ## Layout -/

def share (percent n : Nat) : Nat := (percent * n + 50) / 100

def editorHeight (height : Nat) : Nat := min (share 65 height) (height - 5)

def consoleHeight (height : Nat) : Nat := height - 1 - editorHeight height

/-- The columns before the text: line numbers, a marker and a space. -/
def gutterWidth (d : Document) : Nat := (Text.Decimal.write (max d.lines.length 1)).length + 2

/-! ## The editor pane -/

def markerColor : MarkerState → Color
  | .active => .rgb 150 150 150
  | .finished => .rgb 255 220 0
  | .error => .rgb 255 100 100

def cellMarkerStyle : Style := { foreground := some .cyan, bold := true, underlined := true }

def selectedColumns (d : Document) (line : Nat) : Option (Nat × Nat) :=
  match d.selection with
  | none => none
  | some (start, stop) =>
    if start.line ≤ line ∧ line ≤ stop.line then
      some (if line = start.line then start.column else 0, if line = stop.line then stop.column else d.lineLength line)
    else none

def textSpans (p : Pad) (line : Nat) : List Span :=
  let text := Buffer.line p.shown.lines line
  let style := if p.highlightCells && Line.isCellMarker text then cellMarkerStyle else {}
  match selectedColumns p.shown line with
  | none => [⟨text, style⟩]
  | some (start, stop) =>
    [⟨text.take start, style⟩, ⟨(text.take stop).drop start, { style with reversed := true }⟩, ⟨text.drop stop, style⟩]

def lineSpans (p : Pad) (line : Nat) : List Span :=
  let number := Text.padLeft (gutterWidth p.shown - 2) ' ' (Text.Decimal.write (line + 1))
  let bar : Span := match p.markers.stateAt p.shown.id line with
    | some state => ⟨"▌", .ofForeground (markerColor state)⟩
    | none => ⟨" ", {}⟩
  ⟨number, .ofForeground .darkGray⟩ :: bar :: ⟨" ", {}⟩ :: p.textSpans line

def title (p : Pad) : Text :=
  let name (d : Document) : Text := d.name ++ (if d.modified then "*" else "")
  let others (ds : List Document) : List Text := ds.map fun d => " " ++ name d ++ " "
  [' '].intercalate (others p.before ++ ("[" ++ name p.shown ++ "]") :: others p.after)

def editorPane (p : Pad) (width height : Nat) : Pane :=
  let stop := min p.shown.lines.length (p.top + (height - 2))
  { width, height, title := ⟨p.title, {}⟩
    body := (List.range' p.top (stop - p.top)).map fun line => Row.ofSpans (width - 2) (p.lineSpans line) }

def textLeft (p : Pad) : UInt16 := p.area.x + 1 + (gutterWidth p.shown).toUInt16

/-- The cell of the cursor, if it is in the pane and no help covers it. -/
def cursorCell (p : Pad) : Option (UInt16 × UInt16) :=
  let cursor := p.shown.cursor
  let height := p.area.height.toNat - 2
  if p.helpShown ∨ cursor.line < p.top ∨ p.top + height ≤ cursor.line then none
  else
    let head := (Buffer.line p.shown.lines cursor.line).take cursor.column
    let x := p.textLeft + (Text.width head).toUInt16
    let y := p.area.y + 1 + (cursor.line - p.top).toUInt16
    if x < p.area.innerRight then some (x, y) else none

/-- Puts the cursor where the user clicks, counting every character as one column. -/
def click (p : Pad) (column row : UInt16) : Pad :=
  match p.lineAt row with
  | some line => p.changeShown (·.setCursor line (column.toNat - p.textLeft.toNat))
  | none => p

/-! ## The console pane -/

def errorStyle : Style := .ofForeground (.rgb 255 100 100)

def consoleTop (p : Pad) (height : Nat) : Nat :=
  let hidden := p.console.lines.length - height
  (hidden - min p.scroll hidden).toUInt16.toNat

def consolePane (p : Pad) (width height : Nat) : Pane :=
  let row (line : ConsoleLine) : Row :=
    Row.ofSpans (width - 2) [⟨line.text, if line.isError then errorStyle else {}⟩]
  { width, height, title := ⟨if p.kernelAlive then "Console" else "Console (Python stopped)", {}⟩
    body := ((p.console.lines.drop (p.consoleTop (height - 2))).take (height - 2)).map row }

/-! ## The status bar and the help -/

def statusStyle : Style := { foreground := some .white, background := some .darkGray }

def statusRow (p : Pad) (width : Nat) : Row :=
  let text := " " ++ p.runState.label ++ " | " ++ (if p.kernelAlive then "python" else "python: stopped") ++ " | " ++ p.status
  Row.filled width ⟨[' '], statusStyle⟩ [⟨(Text.shownLines text).headD [], statusStyle⟩]

def helpLines : List Text :=
  ["Running code",
   "  F5           - Run statement at cursor, move past it",
   "  F6           - Run statement at cursor, stay",
   "  F8           - Run the #%% cell around the cursor",
   "  Middle click - Run the statement under the pointer",
   "  Ctrl+R       - Restart Python (clears all variables)",
   "",
   "Console",
   "  Ctrl+L       - Clear",
   "  Ctrl+U       - Remove the last output",
   "  PgUp/PgDn    - Scroll",
   "",
   "Files",
   "  Ctrl+S       - Save",
   "  Ctrl+N       - Next buffer",
   "  Ctrl+K       - Log selection as a snippet (or open the log)",
   "",
   "  F1           - Toggle this help",
   "  Ctrl+Q       - Quit (or Ctrl+C twice)"]

def helpPane (width height : Nat) : Pane :=
  { width, height, title := ⟨"Help", { foreground := some .yellow, bold := true }⟩
    body := (helpLines.flatMap (Text.wrapped (width - 2))).map fun line => Row.ofSpans (width - 2) [⟨line, {}⟩] }

def coverWithHelp (width height : Nat) (s : Screen) : Screen :=
  let left := share 15 width
  let top := share 15 height
  s.overlay top left (helpPane (share 85 width - left) (share 85 height - top)).rows

/-! ## The screen -/

/-- Draws the pad on a screen. The cursor is brought into view first, and the pad remembers where the editor
pane is. -/
def draw (p : Pad) (width height : UInt16) : Screen × Pad :=
  let (w, h) := (width.toNat, height.toNat)
  let editor := editorHeight h
  let p := { p with area := ⟨0, 0, width, editor.toUInt16⟩ }.followCursor (editor - 2)
  let rows := (p.editorPane w editor).rows ++ (p.consolePane w (consoleHeight h)).rows ++ [p.statusRow w]
  let screen : Screen := { rows, cursor := p.cursorCell }
  (if p.helpShown then coverWithHelp w h screen else screen, p)

end Pad
end StatementPad
