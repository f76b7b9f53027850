import StatementPad.Fault
import StatementPad.Files

/-! # Interpreters

How an interpreter is started, and what it does with the lines that reach it, in terms of a state `σ` of
whatever it is that runs it.
-/
namespace StatementPad

open Text.Utf8 (Bytes)

structure InterpreterSpec where
  program : Text
  /-- Keep figure windows alive between runs. -/
  figureEvents : Bool
  /-- Where the process starts, if that is a directory. -/
  workingDir : Option Text
  /-- Where a program that is only a name is looked for. -/
  searchPath : List Text
  deriving DecidableEq, Repr

structure ProcessOutput where
  bytes : Bytes
  ended : Bool
  deriving DecidableEq, Repr

structure Interpreter (σ : Type) where
  /-- Starts a process among the files, in the place of one that may be running. -/
  start : Files → InterpreterSpec → σ → Option Fault × σ
  receive : Text → σ → ProcessOutput × σ

end StatementPad
