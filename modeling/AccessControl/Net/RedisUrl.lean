import AccessControl.Net.Url
import AccessControl.Text.Numeral
import AccessControl.Text.Percent

/-! # Addresses of Redis servers

A server is reached at a host, or at a file on the same machine. Encrypted connections are not
supported. -/

namespace AccessControl.RedisUrl

open AccessControl.Text

/-- A number of 64 bits with or without a sign. -/
def isDatabase (s : String) : Bool := (Text.int64? s).isSome

/-- The value of a name, the last one where a name is repeated. -/
def value? (u : Url) (name : String) : Option String := (formFields u.query).reverse.lookup name

def hasProtocol (u : Url) : Bool :=
  (value? u "protocol").all fun v => ["2", "resp2", "3", "resp3"].contains v

def trimSlashes (cs : List Char) : List Char :=
  ((cs.dropWhile (· = '/')).reverse.dropWhile (· = '/')).reverse

/-- The address of a host that stands for any. -/
def isWildcard : Url.Host → Bool
  | .name s => s = "0.0.0.0"
  | .v6 groups => groups.all (· = 0)

/-- A host, with a number of a database for its path. -/
def isRemote (u : Url) : Bool :=
  let database := trimSlashes u.path
  u.host.any (fun h => !isWildcard h) && (unescape? u.user).isSome
    && (database.isEmpty || isDatabase (String.ofList database)) && hasProtocol u

/-- A file on this machine, with a database in the query. -/
def isLocal (u : Url) : Bool :=
  u.host.all (· = .name "localhost") && u.path.head? = some '/'
    && (value? u "db").all isDatabase && hasProtocol u

def isValid (s : String) : Bool :=
  match Url.parse? s with
  | some u =>
    if ["redis", "valkey"].contains u.scheme then isRemote u
    else ["unix", "redis+unix", "valkey+unix"].contains u.scheme && isLocal u
  | none => false

end AccessControl.RedisUrl
