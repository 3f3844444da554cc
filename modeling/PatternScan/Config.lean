import PatternScan.Error

namespace PatternScan

structure Config where
  capacity : Nat
  logEvictions : Bool
  deriving DecidableEq, Repr

namespace Config

def defaultCapacity : Nat := 1000

def standard : Config := ⟨defaultCapacity, false⟩

def withCapacity (capacity : Nat) : Config := { standard with capacity }

def validate (config : Config) : Except Failure Unit :=
  if config.capacity == 0 then .error .zeroCapacity else .ok ()

end Config
end PatternScan
