import Automation.Json.Reader
import Automation.Text.Encoding

/-!
Requests over HTTP and what comes of them.
-/

namespace Automation.Http

/-- The time limits of a request, in seconds: for the whole of it, and for connecting. -/
structure Timeout where
  total : Binary64
  connect : Binary64
  deriving DecidableEq, Repr

/-- A request. Without time limits those of the client apply; without a body none is sent. -/
structure Request where
  method : String
  url : String
  headers : Fields
  timeout : Option Timeout
  body : Option Value
  deriving Repr

/-- A response as a client hands it over: its status, a number of three digits, the bytes of its
body, the reason phrase, the text of the body in the encoding that its headers name, which need not
be one that the body is in, and whether the client counts it as a success and as an error. -/
structure Response where
  status : Int
  content : List UInt8
  reason : String
  text : Except Failure String
  isSuccess : Bool
  isError : Bool

/-- What comes of a request: a response, or no response in time, or a transport that breaks. The
last two keep the name of the fault and its message. -/
inductive Exchange where
  | answered (response : Response)
  | timedOut (fault message : String)
  | broken (fault message : String)

namespace Response

/-- What clients document of their responses: which statuses are successes and which are errors, and
that a body without a text is a fault of its encoding. -/
structure IsRegular (response : Response) : Prop where
  success : response.isSuccess = decide (200 ≤ response.status ∧ response.status ≤ 299)
  error : response.isError = decide (400 ≤ response.status ∧ response.status ≤ 599)
  garbled : ∀ failure, response.text = .error failure → failure.isStepError = false

/-- The body as JSON, in the encoding that its first bytes show. A mark of the encoding may stand
in front of bytes, not in front of the text itself. -/
def json? (response : Response) : Option Value :=
  match Text.decodeDetected? response.content with
  | some text => Json.read? text
  | none => none

end Response

/-- What comes of a request to a client whose responses are as documented. -/
def Exchange.IsRegular (exchange : Exchange) : Prop :=
  ∀ response, exchange = .answered response → response.IsRegular

end Automation.Http
