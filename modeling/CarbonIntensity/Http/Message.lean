import CarbonIntensity.Text.Basic
import CarbonIntensity.Text.Bytes

/-!
# Headers and statuses

A header name is made of letters, digits and a few marks and fits 16 bits in length; a value may have any
character but controls other than the tab. The status of an answer says whether it is a success and
whether it rejects the credential, and has a usual reason phrase.
-/

namespace CarbonIntensity

/-! ## Headers -/

structure Header where
  name : String
  value : String
deriving DecidableEq, Inhabited

namespace Header

def isNameChar (c : Char) : Bool := c.isAlphanum || "!#$%&'*+-.^_`|~".toList.contains c

def isValueChar (c : Char) : Bool := c = '\t' || (0x20 ≤ c.toNat && c.toNat ≠ 0x7F)

/-- The longest name in characters. -/
def nameLimit : Nat := 65535

def isValid (h : Header) : Bool :=
  !h.name.isEmpty && h.name.length ≤ nameLimit && h.name.toList.all isNameChar && h.value.toList.all isValueChar

/-- User and password as a credential. -/
def basic (username password : String) : Header :=
  ⟨"authorization", "Basic " ++
    String.ofList (Text.base64 (Text.bytes (username ++ ":" ++ password)))⟩

/-- A token as a credential. -/
def bearer (token : String) : Header := ⟨"authorization", "Bearer " ++ token⟩

end Header

/-! ## Statuses -/

namespace Status

def isSuccess (status : Nat) : Bool := 200 ≤ status && status < 300

/-- The credential was rejected. -/
def isRejection (status : Nat) : Bool := status == 401 || status == 403

def reasons : List (Nat × String) :=
  [(100, "Continue"), (101, "Switching Protocols"), (102, "Processing"), (103, "Early Hints"),
    (200, "OK"), (201, "Created"), (202, "Accepted"), (203, "Non Authoritative Information"),
    (204, "No Content"), (205, "Reset Content"), (206, "Partial Content"), (207, "Multi-Status"),
    (208, "Already Reported"), (226, "IM Used"), (300, "Multiple Choices"),
    (301, "Moved Permanently"), (302, "Found"), (303, "See Other"), (304, "Not Modified"),
    (305, "Use Proxy"), (307, "Temporary Redirect"), (308, "Permanent Redirect"),
    (400, "Bad Request"), (401, "Unauthorized"), (402, "Payment Required"), (403, "Forbidden"),
    (404, "Not Found"), (405, "Method Not Allowed"), (406, "Not Acceptable"),
    (407, "Proxy Authentication Required"), (408, "Request Timeout"), (409, "Conflict"),
    (410, "Gone"), (411, "Length Required"), (412, "Precondition Failed"),
    (413, "Payload Too Large"), (414, "URI Too Long"), (415, "Unsupported Media Type"),
    (416, "Range Not Satisfiable"), (417, "Expectation Failed"), (418, "I'm a teapot"),
    (421, "Misdirected Request"), (422, "Unprocessable Entity"), (423, "Locked"),
    (424, "Failed Dependency"), (425, "Too Early"), (426, "Upgrade Required"),
    (428, "Precondition Required"), (429, "Too Many Requests"),
    (431, "Request Header Fields Too Large"), (451, "Unavailable For Legal Reasons"),
    (500, "Internal Server Error"), (501, "Not Implemented"), (502, "Bad Gateway"),
    (503, "Service Unavailable"), (504, "Gateway Timeout"), (505, "HTTP Version Not Supported"),
    (506, "Variant Also Negotiates"), (507, "Insufficient Storage"), (508, "Loop Detected"),
    (510, "Not Extended"), (511, "Network Authentication Required")]

/-- The number and its reason phrase. -/
def text (status : Nat) : String :=
  Text.ofNat status ++ " " ++ (reasons.lookup status).getD "<unknown status code>"

end Status

end CarbonIntensity
