import EventScript.Job
import EventScript.Product

/-!
# The banner

The title with the stamp in use, the project's link if there is one, and an empty line. The link is
escaped; the stamp is not, so its brackets count as markup.
-/

namespace EventScript.CommandLine

def title (stamp : Text) : Text :=
  .concat [Console.styled "cyan" Product.title, " - ", Console.styled "dim cyan" Product.name,
    " - ", Console.styled "dim cyan" ("ver " ++ stamp)]

def sayLine (line : List Text) : Job Unit :=
  Job.emit [.shown (Text.concat line ++ "\n")]

/-- Show a line of markup. -/
def showLine (console : Console) (markup : Text) : Job Unit :=
  match console.line markup with
  | .error fault => Job.fail (.brokeDown (.console fault))
  | .ok shown => Job.emit [.shown shown]

def showBanner (console : Console) (stamp link : Text) : Job Unit := do
  showLine console (title stamp)
  unless link = [] do showLine console (Console.styled "dim yellow" (console.escape link))
  sayLine []

end EventScript.CommandLine
