import SimControl.Catalog.Accessibility
import SimControl.Catalog.App
import SimControl.Catalog.Capture
import SimControl.Catalog.Debug
import SimControl.Catalog.Misc
import SimControl.Catalog.Simulator
import SimControl.Catalog.Ui

/-!
# The built-in catalog

One table of entries per functional domain, in the order in which the domains are registered.
-/

namespace SimControl

inductive Domain where
  | accessibility
  | app
  | capture
  | debug
  | ui
  | simulator
  | misc
  deriving DecidableEq, Repr

namespace Domain

def all : List Domain :=
  [.accessibility, .app, .capture, .debug, .ui, .simulator, .misc]

def key : Domain → String
  | .accessibility => "accessibility"
  | .app => "app"
  | .capture => "capture"
  | .debug => "debug"
  | .ui => "ui"
  | .simulator => "simulator"
  | .misc => "misc"

def ofKey? (key : String) : Option Domain :=
  all.find? fun domain => domain.key == key

def entries : Domain → List Entry
  | .accessibility => Catalog.Accessibility.entries
  | .app => Catalog.App.entries
  | .capture => Catalog.Capture.entries
  | .debug => Catalog.Debug.entries
  | .ui => Catalog.Ui.entries
  | .simulator => Catalog.Simulator.entries
  | .misc => Catalog.Misc.entries

/-- The group of a domain, under the domain's own key or another one. -/
def group (domain : Domain) (key : String := domain.key) : Except InvalidPattern Group :=
  Group.ofEntries key domain.entries

end Domain

end SimControl
