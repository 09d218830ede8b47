import AccessControl.Instant.Basic

/-! # What the services are told besides their calls -/

namespace AccessControl

structure Setting where
  now : Instant
  /-- For how many seconds rule sets are remembered, where there is a cache. -/
  cacheTtl : Option Nat := none
  /-- Whether checks leave entries in the audit log. -/
  auditsChecks : Bool := true
  /-- The minutes after which an override ends when it is granted without an end. -/
  defaultExpiry : Option Int := none
deriving DecidableEq, Repr

namespace Setting

def defaultCacheTtl : Nat := 300

def maxCacheTtl : Nat := 600

/-- The lifetime of remembered rule sets, if any are remembered. -/
def ttl? (s : Setting) : Option Nat := (s.cacheTtl.map fun n => min n maxCacheTtl).filter (0 < ·)

end Setting

end AccessControl
