import StatementPad.Text.Cluster
import StatementPad.Text.Width

/-! # Screens

A screen is a list of rows, and a row a list of cells of one column each. A wide symbol hides the cells behind it:
`Row.shown` leaves them out, and `Row.printed`, where every cell keeps its column, has blanks there. `Row.runs` tells
the styles of all cells.
-/
namespace StatementPad

inductive Color where
  | darkGray
  | cyan
  | white
  | yellow
  | rgb (red green blue : Nat)
  deriving DecidableEq, Repr

structure Style where
  foreground : Option Color := none
  background : Option Color := none
  bold : Bool := false
  underlined : Bool := false
  reversed : Bool := false
  deriving DecidableEq, Repr

structure Cell where
  symbol : Text
  style : Style := {}
  deriving DecidableEq, Repr

namespace Style

def ofForeground (color : Color) : Style := { foreground := some color }

end Style

structure Span where
  text : Text
  style : Style := {}
  deriving DecidableEq, Repr

abbrev Row := List Cell

namespace Row

def blank : Cell := ⟨[' '], {}⟩

/-- The cells of symbols in a row of `width` cells, as many symbols as find room; `filler` stands where a symbol
only reaches. A symbol without columns is left out, and so is one that is wider than the row. -/
def place (width : Nat) (filler : Cell) : Nat → List (Text × Style) → Row
  | _, [] => []
  | room, (symbol, style) :: rest =>
    let columns := Text.width symbol
    if columns = 0 ∨ width < columns then place width filler room rest
    else if room < columns then []
    else ⟨symbol, style⟩ :: (List.replicate (columns - 1) filler ++ place width filler (room - columns) rest)

def symbols (spans : List Span) : List (Text × Style) :=
  spans.flatMap fun span => (Text.clusters span.text).map (·, span.style)

def filled (width : Nat) (filler : Cell) (spans : List Span) : Row :=
  let row := place width filler width (symbols spans)
  row ++ List.replicate (width - row.length) filler

def ofSpans (width : Nat) (spans : List Span) : Row := filled width blank spans

/-- The cells as they are drawn: the one right behind a wide symbol stays blank. -/
def drawnFrom (behindWide : Bool) : Row → Row
  | [] => []
  | cell :: rest => (if behindWide then blank else cell) :: drawnFrom (1 < Text.width cell.symbol) rest

def drawn (row : Row) : Row := drawnFrom false row

def visibleFrom (hidden : Nat) : Row → List Text
  | [] => []
  | cell :: rest =>
    match hidden with
    | 0 => cell.symbol :: visibleFrom (Text.width cell.symbol - 1) rest
    | hidden + 1 => visibleFrom hidden rest

def trimSpaces (t : Text) : Text := (t.reverse.dropWhile (· == ' ')).reverse

/-- The text of a row without the spaces at its end. -/
def shown (row : Row) : Text := trimSpaces (visibleFrom 0 row.drawn).flatten

/-- The text of a row on a terminal that prints one symbol in each column. -/
def printed (row : Row) : Text := trimSpaces (row.drawn.flatMap Cell.symbol)

end Row

structure StyledRun where
  start : Nat
  stop : Nat
  style : Style
  deriving DecidableEq, Repr

namespace Row

def runsFrom (column : Nat) : Row → List StyledRun
  | [] => []
  | cell :: rest =>
    match runsFrom (column + 1) rest with
    | [] => [⟨column, column + 1, cell.style⟩]
    | run :: runs =>
      if run.style = cell.style then ⟨column, run.stop, run.style⟩ :: runs
      else ⟨column, column + 1, cell.style⟩ :: run :: runs

def runs (row : Row) : List StyledRun := (runsFrom 0 row.drawn).filter fun run => run.style ≠ {}

end Row

/-! ## Titles

A title is written over the border of a pane, one of its lines behind the other. The width of a line as a whole
tells where the next one begins and where the title ends; the clusters of a line may need more columns than that.
-/

namespace Row

def erase (start stop : Nat) (row : Row) : Row :=
  row.take start ++ (List.replicate (stop - start) blank ++ row.drop (max start stop))

/-- Puts a symbol into a cell, behind the one that is there if `joined`; the cells up to `stop` that it covers
are erased. -/
def putSymbol (joined : Bool) (column stop : Nat) (symbol : Text) (style : Style) (row : Row) : Row :=
  erase (column + 1) stop (row.modify column fun cell => ⟨if joined then cell.symbol ++ symbol else symbol, style⟩)

/-- Writes clusters from `column` on, but none beyond `stop`. A cluster without columns joins the one before it,
and a cluster joins those without columns at `start`; `fresh` tells that there is nothing to join yet. -/
def writeFrom (style : Style) (start stop : Nat) (fresh : Bool) (column : Nat) : List Text → Row → Row
  | [], row => row
  | cluster :: rest, row =>
    let next := column + Text.width cluster
    if stop < next then row
    else
      let row := if next = column ∧ column ≠ start then row.putSymbol true (column - 1) column cluster style
        else row.putSymbol (column = start && !fresh) column next cluster style
      writeFrom style start stop false next rest row

def writeLines (style : Style) (stop column : Nat) : List Text → Row → Row
  | [], row => row
  | line :: rest, row =>
    let next := column + Text.width line
    if next = column then writeLines style stop column rest row
    else if stop ≤ column then row
    else writeLines style stop next rest (row.writeFrom style column stop true column (Text.clusters line))

def withTitle (title : Span) (row : Row) : Row :=
  let lines := Text.shownLines title.text
  let columns := lines.foldr (fun line n => Text.width line + n) 0
  row.writeLines title.style (min columns row.length) 0 lines

end Row

/-! ## Panes -/

structure Pane where
  width : Nat
  height : Nat
  title : Span
  /-- Rows that fit between the borders. -/
  body : List Row
  deriving DecidableEq, Repr

namespace Pane

def border (c : Char) : Cell := ⟨[c], {}⟩

def between (left right : Char) (row : Row) : Row := border left :: (row ++ [border right])

def rows (p : Pane) : List Row :=
  let inner := p.height - 2
  let body := p.body.take inner
  let line : Row := List.replicate (p.width - 2) (border '─')
  between '┌' '┐' (line.withTitle p.title) ::
    ((body ++ List.replicate (inner - body.length) (Row.ofSpans (p.width - 2) [])).map (between '│' '│') ++
      [between '└' '┘' line])

end Pane

structure Screen where
  rows : List Row
  cursor : Option (UInt16 × UInt16)
  deriving DecidableEq, Repr

namespace Screen

def overlayRow (column : Nat) (above row : Row) : Row :=
  row.take column ++ above ++ row.drop (column + above.length)

def overlay (line column : Nat) (above : List Row) (s : Screen) : Screen :=
  { s with rows := s.rows.take line ++ List.zipWith (overlayRow column) above (s.rows.drop line) ++
      s.rows.drop (line + above.length) }

end Screen
end StatementPad
