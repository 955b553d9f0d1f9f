import AgentWorkflow.Url

/-!
# Requests and answers

What is sent to a server and what comes back. A `Link` is any function that
answers requests; it may change as it does so, and may find no answer at all.
The library makes requests and reads answers and leaves the rest to the link.
Redirections are part of the rest: a link is assumed to follow them, with requests
of its own.
-/

namespace AgentWorkflow.Http

/-- What a request does. -/
inductive Method where
  /-- It asks. -/
  | get
  /-- It changes something. -/
  | post
  deriving DecidableEq

/-- The method as it is sent. -/
def Method.name : Method → String
  | get => "GET"
  | post => "POST"

/-- A request. -/
structure Request where
  /-- What it does. -/
  method : Method
  /-- The address it goes to. -/
  url : Url
  /-- Who sends it, in the words of the operator. -/
  authorization : Option String := none
  /-- The JSON text it carries. -/
  body : Option String := none
  deriving DecidableEq

/-- What comes back in the end. A redirection is among the answers only if the link
has not followed it. -/
inductive Answer where
  /-- The server answered. -/
  | response (status : Nat) (body : List UInt8)
  /-- There is no answer. -/
  | lost

/-- What carries requests to a server and answers back. -/
abbrev Link (σ : Type) := Request → σ → Answer × σ

/-- Whether a status tells of success. -/
def isSuccess (status : Nat) : Bool := 200 ≤ status && status < 300

/-- The registered phrase of each status. -/
def phrases : List (Nat × String) :=
  [(100, "Continue"), (101, "Switching Protocols"), (102, "Processing"), (103, "Early Hints"),
    (200, "OK"), (201, "Created"), (202, "Accepted"), (203, "Non Authoritative Information"),
    (204, "No Content"), (205, "Reset Content"), (206, "Partial Content"), (207, "Multi-Status"),
    (208, "Already Reported"), (226, "IM Used"),
    (300, "Multiple Choices"), (301, "Moved Permanently"), (302, "Found"), (303, "See Other"),
    (304, "Not Modified"), (305, "Use Proxy"), (307, "Temporary Redirect"),
    (308, "Permanent Redirect"),
    (400, "Bad Request"), (401, "Unauthorized"), (402, "Payment Required"), (403, "Forbidden"),
    (404, "Not Found"), (405, "Method Not Allowed"), (406, "Not Acceptable"),
    (407, "Proxy Authentication Required"), (408, "Request Timeout"), (409, "Conflict"),
    (410, "Gone"), (411, "Length Required"), (412, "Precondition Failed"),
    (413, "Payload Too Large"), (414, "URI Too Long"), (415, "Unsupported Media Type"),
    (416, "Range Not Satisfiable"), (417, "Expectation Failed"), (418, "I'm a teapot"),
    (421, "Misdirected Request"), (422, "Unprocessable Entity"), (423, "Locked"),
    (424, "Failed Dependency"), (425, "Too Early"), (426, "Upgrade Required"),
    (428, "Precondition Required"), (429, "Too Many Requests"),
    (431, "Request Header Fields Too Large"), (451, "Unavailable For Legal Reasons"),
    (500, "Internal Server Error"), (501, "Not Implemented"), (502, "Bad Gateway"),
    (503, "Service Unavailable"), (504, "Gateway Timeout"), (505, "HTTP Version Not Supported"),
    (506, "Variant Also Negotiates"), (507, "Insufficient Storage"), (508, "Loop Detected"),
    (510, "Not Extended"), (511, "Network Authentication Required")]

/-- A status in words. -/
def statusText (status : Nat) : String :=
  toString status ++ " " ++ (phrases.lookup status).getD "<unknown status code>"

/-- Whether a text may stand in a header. -/
def isHeaderValue (s : String) : Bool :=
  s.toList.all fun c => c = '\t' || (0x20 ≤ c.toNat && c.toNat ≠ 0x7F)

end AgentWorkflow.Http
