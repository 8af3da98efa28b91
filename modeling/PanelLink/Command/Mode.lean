/-
This file holds the modes a command carries: how a text is drawn on the panel and
how severe a message of the device is. Severities travel as a byte that counts
from one.
-/

namespace PanelLink

/-- How a text is drawn: as it is, or with every pixel of its cells complemented. -/
inductive TextMode where
  | normal
  | inverse
  deriving DecidableEq, Repr

/-- The name of a mode in summaries. -/
def TextMode.name : TextMode → String
  | .normal => "Normal"
  | .inverse => "Inverse"

/-- How severe a message of the device is. -/
inductive Severity where
  | normal
  | error
  | ok
  deriving DecidableEq, Repr

namespace Severity

/-- The severities in the order of their wire codes. -/
def all : List Severity := [.normal, .error, .ok]

/-- The byte that stands for a severity. -/
def code : Severity → UInt8
  | .normal => 1
  | .error => 2
  | .ok => 3

/-- The severity a byte stands for. -/
def ofCode? (byte : UInt8) : Option Severity :=
  all.find? fun severity => severity.code == byte

end Severity

end PanelLink
