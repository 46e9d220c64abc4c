/-! Places in headers. -/
namespace CBindings

structure Location where
  file : String
  line : Int
  column : Option Int := none
deriving DecidableEq, Repr

end CBindings
