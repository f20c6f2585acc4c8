/-!
What can go wrong, by cause, with one function for the wording. Failures of the executor are
told apart from failures to form a query, and those that a new connection may cure from those
that it cannot.
-/
namespace Rowscan

/-- The cause of a failure (`RedluaError`). -/
inductive Failure where
  /-- A filter that is neither a hash condition nor an operator with operands. -/
  | unsupportedFilterShape (found : String)
  | unknownOperator (operator : String)
  | missingOperand (operator : String) (expected : Nat)
  /-- A well-formed query that cannot be run. -/
  | notSupported (what : String)
  /-- An average without a numeric value. -/
  | emptyAggregate
  | connection (what : String)
  /-- A reply that is malformed or not of the expected shape. -/
  | protocol (what : String)
  /-- The bytes read so far end inside a reply. -/
  | incomplete
  | timeout
  /-- An error reply. -/
  | server (text : String)
  | config (what : String)
  | io (what : String)
  deriving DecidableEq, Inhabited

namespace Failure

/-- The wording of a failure. -/
def message : Failure → String
  | .unsupportedFilterShape found => "Unsupported filter shape: " ++ found
  | .unknownOperator operator => "Found unknown operator in query: '" ++ operator ++ "'"
  | .missingOperand operator expected =>
    "Operator '" ++ operator ++ "' requires " ++ toString expected ++ " operand(s)"
  | .notSupported what => "Not supported: " ++ what
  | .emptyAggregate => "Aggregate over an empty result set"
  | .connection what => "Connection error: " ++ what
  | .protocol what => "Protocol error: " ++ what
  | .incomplete => "Incomplete data"
  | .timeout => "Timeout"
  | .server text => "Server error: " ++ text
  | .config what => "Configuration error: " ++ what
  | .io what => "IO error: " ++ what

/-- Whether the failure was met while a command was executed (`is_transport`). -/
def isTransport : Failure → Bool
  | .connection _ | .protocol _ | .incomplete | .timeout | .server _ | .io _ => true
  | _ => false

/-- Whether the same command may succeed over a new connection (`is_retryable`). An error reply is
no reason to try again: the same command would fail the same way. -/
def isRetryable : Failure → Bool
  | .connection _ | .timeout | .io _ => true
  | _ => false

end Failure
end Rowscan
