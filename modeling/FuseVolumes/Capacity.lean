/-! Capacities. Sizes are signed numbers of 64 bits; the storage engine counts quotas in
whole GiB. -/

namespace FuseVolumes.Capacity

def gib : Int := 1073741824

/-- The largest size. -/
def maxBytes : Int := 9223372036854775807

/-- Number of GiB needed to hold a size, none for a negative one. -/
def wholeGib (bytes : Int) : Int :=
  let bytes := max bytes 0
  bytes / gib + if bytes % gib = 0 then 0 else 1

/-- The next whole number of GiB, at least one, as far as sizes go. -/
def roundUp (bytes : Int) : Int :=
  if bytes < gib then gib else min (wholeGib bytes * gib) maxBytes

/-- A quota as the storage engine reads it. -/
def quota (bytes : Int) : String := s!"{wholeGib bytes}g"

end FuseVolumes.Capacity
