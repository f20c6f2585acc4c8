import Rowscan.Executor.Basic

/-!
An executor that answers from a list of replies prepared beforehand, whatever the commands.
-/
namespace Rowscan

/-- Prepared replies, and whether the executor passes for a cluster. -/
structure Canned where
  isClustered : Bool
  replies : List Reply

/-- Answers with the next reply; an error reply is a failure, and without a reply the command
times out. -/
def Canned.execute (_ : Command) (canned : Canned) : Except Failure Reply × Canned :=
  match canned.replies with
  | [] => (.error .timeout, canned)
  | .error text :: rest => (.error (.server text), { canned with replies := rest })
  | reply :: rest => (.ok reply, { canned with replies := rest })

/-- The executor of prepared replies. -/
def Canned.executor : Executor Canned := ⟨Canned.isClustered, Canned.execute⟩

end Rowscan
