import FaultInjection.Text.Percent

/-!
# What an address percent-encodes

Each part of an address has its own set of characters that are percent-encoded. Controls and all that
is not ASCII belong to every set; the sets of a path, of one segment and of the user information
extend each other.
-/

namespace FaultInjection.Url.Encoding

/-- A control, or a character beyond ASCII. -/
def isControl (c : Char) : Bool := c.toNat < 0x20 || 0x7F ≤ c.toNat

/-- What is encoded in a fragment. -/
def fragment (c : Char) : Bool := isControl c || [' ', '\x22', '<', '>', '\x60'].contains c

/-- What is encoded in a query. -/
def query (c : Char) : Bool := isControl c || [' ', '\x22', '#', '<', '>'].contains c

/-- What is encoded in a query where the scheme is special. -/
def specialQuery (c : Char) : Bool := query c || c == '\x27'

/-- What is encoded in a path. -/
def path (c : Char) : Bool := fragment c || ['#', '?', '\x7b', '\x7d'].contains c

/-- What is encoded in a text that is to be one segment. -/
def segment (c : Char) : Bool := path c || c == '/' || c == '%'

/-- What is encoded in a text that is to be one segment where the scheme is special. -/
def specialSegment (c : Char) : Bool := segment c || c == '\\'

/-- What is encoded in a user name or a password. -/
def userInfo (c : Char) : Bool := path c || ['/', ':', ';', '=', '@', '[', '\\', ']', '^', '|'].contains c

end FaultInjection.Url.Encoding
