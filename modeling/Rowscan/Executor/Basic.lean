import Rowscan.Failure
import Rowscan.Reply.Basic
import Rowscan.Scan.Program

/-!
Commands, and what runs them. An executor answers a command with a reply or a failure and may
change its state; queries run over any executor.
-/
namespace Rowscan

/-- The commands that queries issue. -/
inductive Command where
  /-- Read the hash of one row. -/
  | hgetall (key : String)
  /-- Read the length of a list. -/
  | llen (key : String)
  /-- Run a scan program. -/
  | eval (program : ScanProgram)
  deriving Inhabited

namespace Command

/-- The name of a command on the wire (`Command::name`). -/
def name : Command → String
  | .hgetall _ => "HGETALL"
  | .llen _ => "LLEN"
  | .eval _ => "EVAL"

/-- The arguments after the name (`Command::args`). A program is sent as its source and takes no
keys. -/
def arguments : Command → List (List UInt8)
  | .hgetall key => [Text.utf8 key]
  | .llen key => [Text.utf8 key]
  | .eval program => [Text.utf8 program.source, Text.utf8 "0"]

end Command

/-- Something that runs commands over states `σ`. -/
structure Executor (σ : Type) where
  /-- Whether keys need a tag to stay together. -/
  isClustered : σ → Bool
  execute : Command → σ → Except Failure Reply × σ

/-- A computation that may issue commands and may fail. -/
abbrev Run (σ α : Type) := ExceptT Failure (StateM σ) α

/-- A computation that issues no command. -/
def Run.ofExcept {σ α : Type} (result : Except Failure α) : Run σ α := ExceptT.mk (pure result)

namespace Executor

variable {σ : Type}

/-- Issues one command (`Executor::execute`). -/
def send (executor : Executor σ) (command : Command) : Run σ Reply :=
  ExceptT.mk (executor.execute command)

/-- The same executor, which also keeps the commands it was given, the latest first. -/
def logged (executor : Executor σ) : Executor (σ × List Command) where
  isClustered state := executor.isClustered state.1
  execute command state :=
    let (result, next) := executor.execute command state.1
    (result, next, command :: state.2)

end Executor
end Rowscan
