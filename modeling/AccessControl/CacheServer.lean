import AccessControl.Json.Read
import AccessControl.Json.Write
import AccessControl.Program
import AccessControl.Text.Numeral
import AccessControl.Wire.Rule

/-! # The shared capability cache

Several servers can share the rule sets that they remember in a Redis server. An organization has a
counter and so has each of its users. The key of a rule set contains both, and to count one of them
up is to forget every rule set kept under an earlier count. -/

namespace AccessControl.CacheServer

/-! ## Commands -/

/-- The counters of which the key of a rule set is made, and what the key starts with. -/
structure Address where
  epoch : String
  version : String
  base : String
deriving DecidableEq, Repr

inductive Command where
  | connect
  /-- Read what is kept under the key of the present counts. -/
  | read (address : Address)
  /-- Keep a text under the key of the present counts for a number of seconds. -/
  | write (address : Address) (text : String) (ttl : Nat)
  | increment (counter : String)
deriving DecidableEq, Repr

/-- What the server returns, if it returns anything. -/
inductive Value where
  | nothing
  | integer (n : Int)
  | text (s : String)
deriving DecidableEq, Repr

/-- Nothing at all where the command fails. -/
abbrev Reply (_ : Command) : Type := Option Value

abbrev Session (α : Type) := Program Command Reply α

namespace Command

/-- The present counts, zero where nothing has been counted. -/
def countsText : String :=
  "local epoch = redis.call('GET', KEYS[1]) or '0' "
    ++ "local version = redis.call('GET', KEYS[2]) or '0' "

def keyText : String := "ARGV[1] .. ':e' .. epoch .. ':v' .. version"

/-- The script that a command runs, if it runs one. -/
def script? : Command → Option String
  | read _ => some (countsText ++ s!"return redis.call('GET', {keyText})")
  | write .. =>
    some (countsText
      ++ s!"redis.call('SET', {keyText}, ARGV[2], 'EX', tonumber(ARGV[3])) return 1")
  | connect | increment _ => none

/-- The keys that a command is about. -/
def keys : Command → List String
  | connect => []
  | read address | write address .. => [address.epoch, address.version]
  | increment counter => [counter]

def arguments : Command → List String
  | connect => []
  | read address => [address.base]
  | write address text ttl => [address.base, text, toString ttl]
  | increment _ => ["1"]

end Command

namespace Value

/-- A number may be given by its text. -/
def integer? : Value → Option Int
  | nothing => none
  | integer n => some n
  | text s => Text.int64? s

/-- A text, or nothing. -/
def text? : Value → Option String
  | nothing => none
  | integer n => some (toString n)
  | text s => some s

end Value

/-! ## The cache -/

/-- The cache that keeps its keys apart from others by what they start with. -/
structure Cache where
  label : String
deriving DecidableEq, Repr

namespace Cache

def epochKey (c : Cache) (organization : OrganizationId) : String :=
  s!"{c.label}:epoch:{organization}"

def versionKey (c : Cache) (organization : OrganizationId) (user : UserId) : String :=
  s!"{c.label}:version:{organization}:{user}"

def address (c : Cache) (organization : OrganizationId) (user : UserId) : Address where
  epoch := c.epochKey organization
  version := c.versionKey organization user
  base := s!"{c.label}:rules:{organization}:{user}"

/-- Send a command on a connection of its own. -/
def send {α : Type} (task : String) (read : Value → Option α) (command : Command) : Session α := do
  if (← (Program.perform .connect : Session (Option Value))).isNone then
    .fail (.cacheServer "connect to redis")
  match (← (Program.perform command : Session (Option Value))) >>= read with
  | some a => return a
  | none => .fail (.cacheServer task)

def decode (text : String) : Session RuleSet :=
  match RuleSet.decode.readText text with
  | .ok rules => pure rules
  | .error _ => .fail .cacheEntry

def get (c : Cache) (organization : OrganizationId) (user : UserId) :
    Session (Option RuleSet) := do
  let command := .read (c.address organization user)
  match ← send "read capability cache entry" (some ·.text?) command with
  | none => return none
  | some text => return some (← decode text)

/-- Without a lifetime nothing is kept. -/
def set (c : Cache) (organization : OrganizationId) (user : UserId) (rules : RuleSet) (ttl : Nat) :
    Session Unit := do
  if ttl = 0 then return
  let _ ← send "write capability cache entry" Value.integer?
    (.write (c.address organization user) rules.toJson.render ttl)

def forgetUser (c : Cache) (organization : OrganizationId) (user : UserId) : Session Unit := do
  let _ ← send "bump capability cache version" Value.integer?
    (.increment (c.versionKey organization user))

def forgetOrganization (c : Cache) (organization : OrganizationId) : Session Unit := do
  let _ ← send "bump capability cache epoch" Value.integer?
    (.increment (c.epochKey organization))

end Cache

end AccessControl.CacheServer
