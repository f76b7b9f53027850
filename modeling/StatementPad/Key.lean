import StatementPad.Document
import StatementPad.Text.Decimal

/-! # Keys

What the user can press, and the names of keys: `up`, `shift+up`, `ctrl+q`, `f5`.
-/
namespace StatementPad

inductive Key where
  | typed (c : Char)
  | control (c : Char)
  | move (m : Document.Move) (extend : Bool)
  | enter
  | tab
  | backspace
  | delete
  | pageUp
  | pageDown
  | function (n : Nat)
  | unknown
  deriving DecidableEq, Repr

inductive MouseAction where
  | pressLeft
  | pressMiddle
  | scrollUp
  | scrollDown
  /-- Other buttons, drags and releases. -/
  | other
  deriving DecidableEq, Repr

namespace Key

/-- A letter with the control key. Its case makes no difference, and a terminal cannot tell two letters from
other keys. -/
def ofControl (letter : Char) : Key :=
  match letter.toLower with
  | 'i' => tab
  | 'm' => enter
  | c => control c

def ofChar (c : Char) : Key :=
  if c = '\t' then tab
  else if c = '\r' then enter
  else if c.toNat = 0x7F then backspace
  else if 0 < c.toNat ∧ c.toNat ≤ 26 then control (Char.ofNat (c.toNat + 96))
  else if c.toNat < 0x20 then unknown
  else typed c

def plainNames : List (Text × Key) :=
  [("enter", enter), ("tab", tab), ("backspace", backspace), ("delete", delete), ("pageup", pageUp),
   ("pagedown", pageDown)]

def moveNames : List (Text × Document.Move) :=
  [("up", .up 1), ("down", .down 1), ("left", .left), ("right", .right), ("home", .home), ("end", .stop)]

def named (name : Text) : Key :=
  match Text.after? "shift+" name, Text.after? "ctrl+" name with
  | some name, _ => ((moveNames.lookup name).map (move · true)).getD unknown
  | _, some (c :: _) => ofControl c
  | _, _ =>
    ((plainNames.lookup name).or ((moveNames.lookup name).map (move · false))).getD <|
      (((Text.after? "f" name).bind Text.Decimal.read?).map function).getD unknown

end Key

namespace MouseAction

def named (name : Text) : MouseAction :=
  let names : List (Text × MouseAction) :=
    [("left", pressLeft), ("middle", pressMiddle), ("scroll_up", scrollUp), ("scroll_down", scrollDown)]
  (names.lookup name).getD other

end MouseAction
end StatementPad
