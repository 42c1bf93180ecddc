import HandlerBundle.Constant
import HandlerBundle.Text.Blank
import HandlerBundle.Text.Casing

/-!
# Severities

An entry of the journal has one of five severities. They have names and numbers; what names no
severity counts as information.

## Main definitions

* `Severity` — the severities.
* `Severity.ofConstant` — the severity that a name or number stands for.
-/

namespace HandlerBundle

/-- How much an entry of the journal matters. -/
inductive Severity where
  | debug
  | info
  | warning
  | error
  | critical
  deriving DecidableEq, Repr, Inhabited

namespace Severity

/-- All severities. -/
def all : List Severity := [.debug, .info, .warning, .error, .critical]

/-- The name of a severity. -/
def name : Severity → String
  | .debug => "DEBUG"
  | .info => "INFO"
  | .warning => "WARNING"
  | .error => "ERROR"
  | .critical => "CRITICAL"

/-- The number of a severity. -/
def level : Severity → Nat
  | .debug => 10
  | .info => 20
  | .warning => 30
  | .error => 40
  | .critical => 50

/-- The severity of a name in upper case, or of another word for it. -/
def ofName? (name : String) : Option Severity :=
  if name == "WARN" then some .warning
  else if name == "FATAL" then some .critical
  else all.find? fun s => s.name == name

/-- The severity of a number. -/
def ofLevel? (n : Int) : Option Severity :=
  all.find? fun s => n == s.level

/-- The severity of a word, in whatever case and with whatever blanks around it. -/
def ofText (s : String) : Severity :=
  (ofName? (upperText (trim s))).getD .info

/-- The severity that a constant stands for. A number that is no severity stands for a word that
names none. -/
def ofConstant : Constant → Severity
  | .int n => (ofLevel? n).getD .info
  | .text s => ofText s
  | _ => .info

/-- The least level of a word that says which entries are kept: a severity, or all. -/
def threshold? (name : String) : Option Nat :=
  if name == "NOTSET" then some 0 else (ofName? name).map level

end Severity

end HandlerBundle
