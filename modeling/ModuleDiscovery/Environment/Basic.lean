/-!
# Environment variables

The variables a program was started with, in their order.
-/

namespace ModuleDiscovery

/-- Names and values of variables. -/
abbrev Environment := List (String × String)

namespace Environment

/-- The value of a variable. -/
def get? (environment : Environment) (name : String) : Option String :=
  environment.lookup name

/-- Whether a variable is there, be it empty. -/
def isSet (environment : Environment) (name : String) : Bool :=
  (environment.get? name).isSome

end Environment

end ModuleDiscovery
