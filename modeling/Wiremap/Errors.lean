/-! The typed errors a request can end with. -/
namespace Wiremap

structure AppError where
  statusCode : Nat
  message : String
  deriving DecidableEq, Repr

namespace AppError

def notFound (msg : String) : AppError := ⟨404, msg⟩
def badRequest (msg : String) : AppError := ⟨400, msg⟩
def forbidden (msg : String) : AppError := ⟨403, msg⟩
def internal (msg : String) : AppError := ⟨500, msg⟩

end AppError
end Wiremap
