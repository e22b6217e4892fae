/-
# CatalogReplica.Refusal -- commands the log service refuses

A refusal is a code and, behind a blank, a detail. Some codes belong to kinds
of error that have a name of their own; the others are shown as they came.
-/

namespace CatalogReplica

/-- The answer to a command that was refused. -/
structure Refusal where
  code : String
  detail : Option String
  deriving DecidableEq

namespace Refusal

/-- The kinds of error with a name, by their codes. -/
def kinds : List (String × String) := [
  ("ERR", "ResponseError"),
  ("EXECABORT", "ExecAbortError"),
  ("LOADING", "BusyLoadingError"),
  ("NOSCRIPT", "NoScriptError"),
  ("MOVED", "Moved"),
  ("ASK", "Ask"),
  ("TRYAGAIN", "TryAgain"),
  ("CLUSTERDOWN", "ClusterDown"),
  ("CROSSSLOT", "CrossSlot"),
  ("MASTERDOWN", "MasterDown"),
  ("READONLY", "ReadOnly"),
  ("NOTBUSY", "NotBusy"),
  ("NOSUB", "NoSub")]

/-- The refusal that a line spells. -/
def ofLine (line : String) : Refusal :=
  let cs := line.toList
  let code := String.ofList (cs.takeWhile (· != ' '))
  match cs.dropWhile (· != ' ') with
  | [] => ⟨code, none⟩
  | _ :: detail => ⟨code, some (String.ofList detail)⟩

/-- The wording of a refusal. -/
def message (r : Refusal) : String :=
  match kinds.lookup r.code, r.detail with
  | some kind, some detail => "An error was signalled by the server - " ++ kind ++ ": " ++ detail
  | some kind, none => "An error was signalled by the server- " ++ kind
  | none, some detail => r.code ++ ": " ++ detail
  | none, none => r.code ++ ": Unknown extension error encountered"

end Refusal
end CatalogReplica
