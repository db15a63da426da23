import Issuance.Json
import Issuance.Fault
/-! # Answers

An answer is a JSON value. A failure of the library is answered with its
class and message; a malformed request and a broken precondition of the
library have classes of their own. -/
namespace Issuance.Api

def obj (fs : List (String × Json)) : Json := .obj fs

def failure (f : Fault) : Json := obj [("error", .str f.code.name), ("message", .str f.message)]

def badRequest (message : String) : Json := obj [("error", .str "bad_request"), ("message", .str message)]

def aborted (message : String) : Json := obj [("error", .str "panic"), ("message", .str message)]

def internal (message : String) : Json := failure (Fault.plain message)

end Issuance.Api
