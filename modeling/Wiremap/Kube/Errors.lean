import Wiremap.Errors

/-! Kubernetes API errors, and how they become the errors of a request. -/
namespace Wiremap.Kube

/-- `other` is every reason the callers do not tell apart. -/
inductive Reason where
  | notFound
  | forbidden
  | other
  deriving DecidableEq, Repr

structure ApiError where
  reason : Reason
  text : String
  deriving DecidableEq, Repr

def wrapError (err : ApiError) (action : String) : AppError :=
  let msg := s!"failed to {action}: {err.text}"
  match err.reason with
  | .notFound => .notFound msg
  | .forbidden => .forbidden msg
  | .other => .internal msg

/-- Errors that hide an optional part of a view rather than fail it. -/
def isOptional (err : ApiError) : Bool :=
  err.reason = .forbidden || err.reason = .notFound

end Wiremap.Kube
