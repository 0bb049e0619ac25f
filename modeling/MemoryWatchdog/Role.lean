/-!
# Worker roles

A watchdog supervises a worker of one of two kinds, which differ in what is monitored and in how the worker is asked to go.
-/

namespace MemoryWatchdog

/-- The kind of a supervised worker: one that serves requests, or one that runs background jobs. -/
inductive Role
  | web
  | job
  deriving DecidableEq, Repr

namespace Role

def name : Role → String
  | .web => "web"
  | .job => "job"

/-- All roles, in the order in which help texts list them. -/
def all : List Role :=
  [.web, .job]

/-- What a role is for. -/
def purpose : Role → String
  | .web => "Request-serving worker"
  | .job => "Background job worker"

/-- The role with a name, the case of ASCII letters ignored or not. -/
def ofName? (ignoreCase : Bool) (text : String) : Option Role :=
  let wanted := if ignoreCase then String.ofList (text.toList.map Char.toLower) else text
  all.find? (·.name == wanted)

/-- There are no other roles. -/
theorem mem_all (r : Role) : r ∈ all := by
  cases r <;> decide

@[simp] theorem ofName?_name (r : Role) : ofName? false r.name = some r := by
  cases r <;> decide

end Role

end MemoryWatchdog
