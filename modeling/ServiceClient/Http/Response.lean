import ServiceClient.Pairs
import ServiceClient.Text.Case
import ServiceClient.Text.Utf8

/-!
Responses. Header names count whatever the case of their letters; a name that comes again puts its
spelling and its value in the place of the first.
-/

namespace ServiceClient

/-- Header lines, each name once. -/
abbrev Headers := List (String × String)

namespace Headers

/-- Whether two names are of one header. -/
def sameName (a b : String) : Bool := Text.lower a == Text.lower b

/-- Puts a header line in the place of the one of its name, or at the end. -/
def insert (name v : String) : Headers → Headers
  | [] => [(name, v)]
  | (n, old) :: rest => if sameName n name then (name, v) :: rest else (n, old) :: insert name v rest

def ofPairs (pairs : List (String × String)) : Headers :=
  pairs.foldl (fun headers (name, v) => insert name v headers) []

def get? (name : String) (headers : Headers) : Option String :=
  (headers.find? fun line => sameName line.1 name).map (·.2)

/-- The headers whose names start with a text, by the rest of their names. -/
def startingWith (start : String) (headers : Headers) : List (String × String) :=
  Pairs.distinct ((headers.filter fun line => (Text.lower line.1).startsWith (Text.lower start)).map
    fun (name, v) => (String.ofList (name.toList.drop start.length), v))

end Headers

/-- What came back for a request. -/
structure Response where
  status : Int
  body : Octets := []
  headers : Headers := []
  deriving Repr

namespace Response

/-- The body as text; what is no UTF-8 is replaced. -/
def text (r : Response) : String := Text.utf8DecodeLossy r.body

/-- A header of the response, if there is one. -/
def header? (r : Option Response) (name : String) : Option String := r.bind (·.headers.get? name)

/-- The headers that start with a text, if there are any. -/
def headersStartingWith? (r : Option Response) (start : String) : Option (List (String × String)) :=
  (r.map (·.headers.startingWith start)).filter (!·.isEmpty)

end Response

end ServiceClient
