/-! What is logged. Scripts log through the functions named for the levels; the registry warns of
definitions that replace others, and the loader tells what it does. -/
namespace CallScript

inductive Level where
  | debug
  | info
  | notice
  | warning
  | err
  | alert
  | emerg
  | crit
  deriving DecidableEq, Repr

def Level.name : Level → String
  | .debug => "debug"
  | .info => "info"
  | .notice => "notice"
  | .warning => "warning"
  | .err => "err"
  | .alert => "alert"
  | .emerg => "emerg"
  | .crit => "crit"

def Level.heading : Level → String
  | .debug => "DEBUG"
  | .info => "INFO"
  | .notice => "NOTICE"
  | .warning => "WARNING"
  | .err => "ERROR"
  | .alert => "ALERT"
  | .emerg => "EMERG"
  | .crit => "CRITICAL"

def Level.severity : Level → Nat
  | .debug => 10
  | .info => 20
  | .notice => 25
  | .warning => 30
  | .err => 40
  | .alert => 55
  | .emerg => 60
  | .crit => 50

def Level.all : List Level :=
  [.debug, .info, .notice, .warning, .err, .alert, .emerg, .crit]

def Level.ofName? (name : String) : Option Level :=
  Level.all.find? (fun level => level.name == name)

/-- The level of a name; a name of none means the one for notices. -/
def Level.ofNameOrNotice (name : String) : Level :=
  (Level.ofName? name).getD .notice

def recordFormat : String :=
  "%(asctime)s %(levelname)s %(name)s: %(message)s"

inductive Source where
  | script
  | registry
  | loader
  deriving DecidableEq, Repr

structure Record where
  source : Source
  level : Level
  message : String
  deriving DecidableEq, Repr

abbrev Journal := List Record

end CallScript
