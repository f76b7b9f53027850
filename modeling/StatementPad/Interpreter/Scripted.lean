import StatementPad.Interpreter.Launch
import StatementPad.Json.Reader

/-! # Scripted interpreters

An interpreter that does what a script says: each kind of request has a queue of answers, and an answer is a
list of actions. Each process that is started follows the next script, whatever its program is. There is a
record of what reached it.
-/
namespace StatementPad

open Text.Utf8 (Bytes)

inductive ScriptedAction where
  | exit
  | write (bytes : Bytes)
  /-- Sends an object, with the number of the request unless it has one of its own. -/
  | reply (answer : Json)

abbrev Script := List (Text × List (List ScriptedAction))

inductive ScriptedEvent where
  | started (process : Nat) (spec : InterpreterSpec)
  | received (request : Json)

structure ScriptedInterpreter where
  scripts : List Script
  current : Script := []
  processes : Nat := 0
  record : List ScriptedEvent := []

namespace ScriptedInterpreter

def start (fs : Files) (spec : InterpreterSpec) (s : ScriptedInterpreter) : Option Fault × ScriptedInterpreter :=
  match spec.launch fs with
  | .error e => (some (.spawn spec.program e.message), s)
  | .ok _ =>
    (none, { s with
      scripts := s.scripts.tail
      current := s.scripts.headD []
      processes := s.processes + 1
      record := s.record ++ [.started s.processes spec] })

def fieldsOf : Json → List (Text × Json)
  | .object fields => fields
  | _ => []

def numbered (id : Json) (answer : Json) : Json :=
  if (answer.field? "id").isSome then answer else .object (("id", id) :: fieldsOf answer)

def perform (id : Json) : List ScriptedAction → ProcessOutput
  | [] => ⟨[], false⟩
  | .exit :: _ => ⟨[], true⟩
  | action :: rest =>
    let written := match action with
      | .exit => []
      | .write bytes => bytes
      | .reply answer => Text.Utf8.encode (Json.write (numbered id answer) ++ ['\n'])
    let more := perform id rest
    ⟨written ++ more.bytes, more.ended⟩

def byDefault (operation : Text) : List ScriptedAction :=
  let kind (name : Text) : Text × Json := ("kind", .text name)
  if operation = "flush".toList then [.reply (.object [kind "flushed", ("output", .list [])])]
  else if operation = "set_working_dir".toList then [.reply (.object [kind "ack"])]
  else [.reply (.object [kind "failed", ("message", .text "script ended")])]

def receive (line : Text) (s : ScriptedInterpreter) : ProcessOutput × ScriptedInterpreter :=
  match Json.read? line with
  | none => (⟨[], false⟩, s)
  | some request =>
    let s := { s with record := s.record ++ [ScriptedEvent.received request] }
    let id := (request.field? "id").getD .null
    let operation : Text := match request.field? "op" with
      | some (.text operation) => operation
      | _ => []
    if operation = "shutdown".toList then (⟨[], true⟩, s)
    else
      match s.current.lookup operation with
      | some (actions :: queue) =>
        (perform id actions,
          { s with current := (operation, queue) :: s.current.filter fun entry => entry.1 ≠ operation })
      | _ => (perform id (byDefault operation), s)

end ScriptedInterpreter

def scriptedInterpreter : Interpreter ScriptedInterpreter := ⟨ScriptedInterpreter.start, ScriptedInterpreter.receive⟩

end StatementPad
