import AccessControl.Net.RedisUrl
import AccessControl.Setting
import AccessControl.Fault

/-! # Configuration

The server is configured by named texts, its environment. -/

namespace AccessControl

inductive CacheBackend where
  | inMemory
  | redis
deriving DecidableEq, Repr

structure Config where
  /-- End after the migrations. -/
  migrateOnly : Bool
  databaseUrl : String
  host : String
  port : Nat
  redisUrl : Option String
  cacheBackend : CacheBackend
  cacheTtl : Nat
  /-- The minutes after which overrides end that are granted without an end. -/
  defaultExpiry : Option Nat
  queueCapacity : Nat
deriving DecidableEq, Repr

namespace Config

abbrev Environment := String → Option String

/-- The names of the texts that are looked at. -/
def names : List String :=
  ["DATABASE_URL", "API_HOST", "API_PORT", "REDIS_URL", "CAPABILITY_CACHE_BACKEND",
    "CAPABILITY_CACHE_TTL_SECONDS", "RESOURCE_PERMISSION_DEFAULT_EXPIRY_MINUTES",
    "AUDIT_QUEUE_CAPACITY"]

def defaultHost : String := "127.0.0.1"

def defaultPort : Nat := 3002

def defaultQueueCapacity : Nat := 1024

/-- The value of a name, trimmed, if it shows anything. -/
def value? (env : Environment) (name : String) : Option String :=
  (Text.shown? (env name)).map Text.trim

def databaseUrlOf (env : Environment) : Outcome String :=
  match Text.shown? (env "DATABASE_URL") with
  | some url => .ok url
  | none => .error .databaseUrlMissing

/-- A port that is none gives way to the default. -/
def portOf (env : Environment) : Nat :=
  ((env "API_PORT").bind fun s => (Text.natUpTo 65535 s).toOption).getD defaultPort

def cacheBackendOf (env : Environment) : Outcome CacheBackend :=
  match value? env "CAPABILITY_CACHE_BACKEND" with
  | none | some "in_memory" => .ok .inMemory
  | some "redis" => .ok .redis
  | some other => .error (.cacheBackend other)

def cacheTtlOf (env : Environment) : Outcome Nat :=
  match value? env "CAPABILITY_CACHE_TTL_SECONDS" with
  | none => .ok Setting.defaultCacheTtl
  | some s =>
    match Text.natUpTo (UInt32.size - 1) s with
    | .error cause => .error (.cacheTtlForm cause)
    | .ok ttl =>
      if Setting.maxCacheTtl < ttl then .error (.cacheTtlTooLong Setting.maxCacheTtl) else .ok ttl

def defaultExpiryOf (env : Environment) : Outcome (Option Nat) :=
  match value? env "RESOURCE_PERMISSION_DEFAULT_EXPIRY_MINUTES" with
  | none => .ok none
  | some s =>
    match Text.positive? s with
    | none => .error (.expiryMinutes s)
    | some minutes =>
      if Instant.maxMinutes < minutes then .error .calendarOverflow else .ok (some minutes)

def queueCapacityOf (env : Environment) : Outcome Nat :=
  match value? env "AUDIT_QUEUE_CAPACITY" with
  | none => .ok defaultQueueCapacity
  | some s =>
    match Text.natUpTo (UInt64.size - 1) s with
    | .ok (n + 1) => .ok (n + 1)
    | _ => .error (.queueCapacity s)

def load (migrateOnly : Bool) (env : Environment) : Outcome Config := do
  let databaseUrl ← databaseUrlOf env
  let cacheBackend ← cacheBackendOf env
  let cacheTtl ← cacheTtlOf env
  let defaultExpiry ← defaultExpiryOf env
  let queueCapacity ← queueCapacityOf env
  return {
    migrateOnly
    databaseUrl
    host := (env "API_HOST").getD defaultHost
    port := portOf env
    redisUrl := Text.shown? (env "REDIS_URL")
    cacheBackend
    cacheTtl
    defaultExpiry
    queueCapacity }

/-- The address at which the server listens. -/
def address (c : Config) : Outcome SocketAddress :=
  match IpAddress.parse? c.host with
  | some host => .ok { host, port := c.port }
  | none => .error (.host c.host)

/-- The cache that is configured can be set up. -/
def checkCache (c : Config) : Outcome Unit :=
  match c.cacheBackend, c.redisUrl with
  | .inMemory, _ => .ok ()
  | .redis, none => .error .redisUrlMissing
  | .redis, some url => if RedisUrl.isValid url then .ok () else .error .redisUrl

/-- What the services are told at a time. -/
def setting (c : Config) (now : Instant) : Setting where
  now
  cacheTtl := some c.cacheTtl
  defaultExpiry := c.defaultExpiry.map Int.ofNat

end Config

end AccessControl
