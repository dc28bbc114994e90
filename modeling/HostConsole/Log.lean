/-! What a console reports to its user. -/

namespace HostConsole

inductive Level where
  | info
  | error
  | result
  deriving DecidableEq

structure Entry where
  level : Level
  text : String
  deriving DecidableEq

end HostConsole
