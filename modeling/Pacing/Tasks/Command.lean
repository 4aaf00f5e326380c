/-!
# Commands of the task runner

What the task runner can be asked to do.
-/

namespace Pacing.Tasks

/-- The groups of checks. -/
inductive Job where
  | lint
  | test
  | check
  deriving DecidableEq, Repr

namespace Job

def name : Job → String
  | .lint => "lint"
  | .test => "test"
  | .check => "check"

def all : List Job := [.lint, .test, .check]

def ofName? (name : String) : Option Job :=
  all.find? fun job => job.name == name

def standard : Job := .check

end Job

/-- How a binary is built. -/
inductive Profile where
  | debug
  | release
  deriving DecidableEq, Repr

namespace Profile

def name : Profile → String
  | .debug => "debug"
  | .release => "release"

def all : List Profile := [.debug, .release]

def ofName? (name : String) : Option Profile :=
  all.find? fun profile => profile.name == name

def standard : Profile := .release

/-- The directory in which the build leaves its binaries. -/
def directory : Profile → String
  | .debug => "debug"
  | .release => "release"

/-- The flag that asks for the profile, where it is not the usual one. -/
def flag? : Profile → Option String
  | .debug => none
  | .release => some "--release"

end Profile

inductive Command where
  | runChecks (job : Job)
  | package (target : String) (profile : Profile)
  deriving DecidableEq, Repr

namespace Command

def standardTarget : String := "x86_64-unknown-linux-gnu"

end Command

end Pacing.Tasks
