import BenchmarkOrchestration.Files.Tree
import BenchmarkOrchestration.Text.Affix

namespace BenchmarkOrchestration

/-!
# Selection files

A selection file lists the regions that are instrumented.  The profiler reads it between two
markers, which are put around the content and can be taken away again.
-/

namespace Selection

/-- The marker before the regions: everything else is excluded. -/
def header : String := "SCOREP_REGION_NAMES_BEGIN\nEXCLUDE *\nINCLUDE"

/-- The marker after the regions. -/
def footer : String := "SCOREP_REGION_NAMES_END"

/-- A content with the header before it, on lines of its own. -/
def withHeader
    (content : String) :
    String :=
  header ++ "\n" ++ content

/-- A content without the markers that it has. -/
def strip
    (content : String) :
    String :=
  let text := content.toList
  let body :=
    match Affix.dropStart? header.toList text with
    | some rest => (Affix.dropStart? ['\n'] rest).getD rest
    | none => text
  String.ofList ((Affix.dropEnd? footer.toList body).getD body)

/-- Put the header into a file, which must be text. -/
def putHeader
    (tree : FileTree)
    (here : Location)
    (path : String) :
    Except FileFault FileTree := do
  let content ← tree.readText here path
  tree.write here path (withHeader content).toUTF8

/-- Put the footer at the end of a file. -/
def putFooter
    (tree : FileTree)
    (here : Location)
    (path : String) :
    Except FileFault FileTree :=
  tree.append here path footer.toUTF8

/-- The content of a file without its markers. -/
def readStripped
    (tree : FileTree)
    (here : Location)
    (path : String) :
    Except FileFault String := do
  return strip (← tree.readText here path)

/-- Whether two files have the same bytes, so that a refinement has come to its end. -/
def sameFiles
    (tree : FileTree)
    (here : Location)
    (first second : String) :
    Except FileFault Bool := do
  return (← tree.read here first).data = (← tree.read here second).data

end Selection

end BenchmarkOrchestration
