import EventScript.Text.Basic

/-!
# The product

What the program calls itself, which is not what it is called with.
-/

namespace EventScript.Product

def name : Text := "wte-script"

def title : Text := "WTEngine Script Utility"

/-- The command that runs the program. -/
def command : Text := "wte-mkscript"

def version : Text := "0.1.0"

/-- The environment variable that holds the link to the project. -/
def linkVariable : Text := "WTE_SCRIPT_URL"

end EventScript.Product
