import StatementPad.Buffer

/-! # Where a block may end

Going down from an anchor, every line is offered after which the text read so far looks complete. The last
offer stands for the end of the scan, whether or not anything looked complete. `candidates` keeps the offers
whose ends increase.
-/
namespace StatementPad

structure EndCandidate where
  /-- The first code line at or below the anchor, if there is one. -/
  firstCode : Option Nat
  stop : Nat
  /-- The first code line is indented, so the block begins above the anchor. -/
  needsAbove : Bool
  deriving DecidableEq, Repr

def EndCandidate.isEmpty (c : EndCandidate) : Bool := c.firstCode.isNone

structure EndScan where
  firstCode : Option Nat := none
  /-- The last code line, or the anchor as long as there is none. -/
  lastCode : Nat
  /-- The last code line cannot end the block. -/
  pending : Bool := false
  needsAbove : Bool := false
  deriving DecidableEq, Repr

namespace EndScan

def candidate (s : EndScan) (stop : Nat) : EndCandidate := ⟨s.firstCode, stop, s.needsAbove⟩

def opensMore (s : EndScan) (marks : CodeMarks) : Bool :=
  (marks.chained || (s.firstCode.isNone && marks.header)) && !s.pending

/-- The scan after a code line, and the candidate that the line gives rise to: a line in the first column
ends the block before it, unless it belongs to that block itself. -/
def readCode (minLine line : Nat) (marks : CodeMarks) (s : EndScan) : EndScan × Option EndCandidate :=
  let pending := marks.clause || s.opensMore marks || marks.continued || marks.decorator
  let after : EndScan :=
    { firstCode := some (s.firstCode.getD line)
      lastCode := line
      pending
      needsAbove := s.needsAbove || (s.firstCode.isNone && marks.indented) }
  let stop := if marks.clause || line ≤ minLine then line else s.lastCode
  (after, if minLine ≤ line && !marks.indented && !pending then some (after.candidate stop) else none)

def offers (b : Buffer) (minLine : Nat) : EndScan → List Nat → List EndCandidate
  | s, [] => [s.candidate s.lastCode]
  | s, line :: rest =>
    match (Buffer.classAt b line).marks? with
    | none => offers b minLine s rest
    | some marks =>
      let (after, found) := readCode minLine line marks s
      found.toList ++ offers b minLine after rest

end EndScan

namespace EndCandidate

def increasing : Option Nat → List EndCandidate → List EndCandidate
  | _, [] => []
  | last, c :: rest =>
    if last.all (· < c.stop) then c :: increasing (some c.stop) rest else increasing last rest

/-- The proposed ends of the block at `anchor`, none of which cuts off a line up to `minLine`. Lines from
`limit` on are not looked at. -/
def candidates (b : Buffer) (anchor minLine limit : Nat) : List EndCandidate :=
  increasing none <|
    EndScan.offers b minLine { lastCode := anchor } (List.range' anchor (min limit b.length - anchor))

end EndCandidate
end StatementPad
