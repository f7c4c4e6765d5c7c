import WorkerTelemetry.Net.SocketAddress
import WorkerTelemetry.Scrape.Options
import WorkerTelemetry.Scrape.Samples

/-!
The scrape tool: it asks an address for an exposition and prints it, or the samples that are looked
for. Only an answer with a status from 200 to 299 is an exposition.
-/

namespace WorkerTelemetry.Scrape

structure Answer where
  status : Nat
  body : String
  deriving DecidableEq, Repr

/-- The end of the scrape tool. -/
structure Exit where
  code : Nat
  output : String := ""
  error : Option String := none
  deriving DecidableEq, Repr

/-- The phrase that belongs to a status. -/
def reason : Nat → String
  | 100 => "Continue" | 101 => "Switching Protocols" | 102 => "Processing"
  | 103 => "Early Hints"
  | 200 => "OK" | 201 => "Created" | 202 => "Accepted"
  | 203 => "Non Authoritative Information" | 204 => "No Content" | 205 => "Reset Content"
  | 206 => "Partial Content" | 207 => "Multi-Status" | 208 => "Already Reported" | 226 => "IM Used"
  | 300 => "Multiple Choices" | 301 => "Moved Permanently" | 302 => "Found" | 303 => "See Other"
  | 304 => "Not Modified" | 305 => "Use Proxy" | 307 => "Temporary Redirect"
  | 308 => "Permanent Redirect"
  | 400 => "Bad Request" | 401 => "Unauthorized" | 402 => "Payment Required" | 403 => "Forbidden"
  | 404 => "Not Found" | 405 => "Method Not Allowed" | 406 => "Not Acceptable"
  | 407 => "Proxy Authentication Required" | 408 => "Request Timeout" | 409 => "Conflict"
  | 410 => "Gone" | 411 => "Length Required" | 412 => "Precondition Failed"
  | 413 => "Payload Too Large" | 414 => "URI Too Long" | 415 => "Unsupported Media Type"
  | 416 => "Range Not Satisfiable" | 417 => "Expectation Failed" | 418 => "I'm a teapot"
  | 421 => "Misdirected Request" | 422 => "Unprocessable Entity" | 423 => "Locked"
  | 424 => "Failed Dependency" | 425 => "Too Early" | 426 => "Upgrade Required"
  | 428 => "Precondition Required" | 429 => "Too Many Requests"
  | 431 => "Request Header Fields Too Large" | 451 => "Unavailable For Legal Reasons"
  | 500 => "Internal Server Error" | 501 => "Not Implemented" | 502 => "Bad Gateway"
  | 503 => "Service Unavailable" | 504 => "Gateway Timeout" | 505 => "HTTP Version Not Supported"
  | 506 => "Variant Also Negotiates" | 507 => "Insufficient Storage" | 508 => "Loop Detected"
  | 510 => "Not Extended" | 511 => "Network Authentication Required"
  | _ => "<unknown status code>"

/-- The wording of an answer that is no exposition. -/
def statusMessage (status : Nat) : String :=
  "metrics endpoint returned status " ++ Net.SocketAddress.numberText status ++ " " ++
    reason status

def Command.output (c : Command) (body : String) : String :=
  match c with
  | .scrape => body
  | .grep start => String.join ((samplesStarting start body).map (· ++ "\n"))

/-- Runs a command line; `ask` gives the answer of an address, or the listing of an error. -/
def run (ask : String → Except String Answer) (args : List String) : Exit :=
  match Options.parse args with
  | .error .help => { code := 0 }
  | .error .usage => { code := 2 }
  | .ok o =>
    match ask o.url with
    | .error listing => { code := 1, error := some ("Error: " ++ listing) }
    | .ok answer =>
      if 200 ≤ answer.status ∧ answer.status < 300 then
        { code := 0, output := o.command.output answer.body }
      else { code := 1, error := some ("Error: " ++ Text.quote (statusMessage answer.status)) }

end WorkerTelemetry.Scrape
