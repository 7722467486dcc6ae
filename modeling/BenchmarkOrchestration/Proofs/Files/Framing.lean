import BenchmarkOrchestration.Files.Selection
import BenchmarkOrchestration.Proofs.Files.Rewriting
import Mathlib.Logic.Function.Iterate

namespace BenchmarkOrchestration

/-!
# Framing selection files

The markers around the regions of a selection file are a layer of their own: they may be put in
either order, come off again whatever text they were put around, and make no difference when two
files are compared.  A header that cannot be put leaves all files as they are.
-/

namespace Utf8

/-- The bytes of a text are that text. -/
theorem decode?_toUTF8
    (text : String) :
    decode? text.toUTF8 = some text := by
  rw [decode?, String.fromUTF8?, String.toUTF8_eq_toByteArray, dif_pos text.isValidUTF8]
  rfl

/-- Bytes are no text if no text has them as its bytes. -/
theorem decode?_eq_none
    {bytes : ByteArray}
    (noText : ∀ text : String, text.toUTF8 ≠ bytes) :
    decode? bytes = none := by
  rw [decode?, String.fromUTF8?]
  split
  · rename_i valid
    exact absurd rfl (noText (String.fromUTF8 bytes valid))
  · rfl

end Utf8

namespace FileTree

/-- A path leads to a file whose content is a text. -/
def HoldsText
    (tree : FileTree)
    (here : Location)
    (path content : String) :
    Prop :=
  ∃ location isExecutable,
    tree.find here path = .ok (location, .file content.toUTF8 isExecutable)

/-- The text of a file is read from it. -/
theorem HoldsText.readText
    {tree : FileTree}
    {here : Location}
    {path content : String}
    (holds : tree.HoldsText here path content) :
    tree.readText here path = .ok content := by
  obtain ⟨location, isExecutable, found⟩ := holds
  rw [FileTree.readText, read_of_find found]
  simp only [bind, Except.bind, Utf8.decode?_toUTF8]

end FileTree

namespace Selection

/-- A content between both markers. -/
def framed
    (content : String) :
    String :=
  withHeader content ++ footer

/-- Without its markers, a framed content is the content itself, also if it has markers too. -/
theorem strip_framed
    (content : String) :
    strip (framed content) = content := by
  have header? :
      Affix.dropStart? header.toList (framed content).toList =
        some ('\n' :: (content.toList ++ footer.toList)) := by
    rw [Affix.dropStart?_eq_some_iff]
    simp [framed, withHeader]
  have newline? :
      Affix.dropStart? ['\n'] ('\n' :: (content.toList ++ footer.toList)) =
        some (content.toList ++ footer.toList) :=
    Affix.dropStart?_eq_some_iff.mpr rfl
  have footer? :
      Affix.dropEnd? footer.toList (content.toList ++ footer.toList) = some content.toList :=
    Affix.dropEnd?_eq_some_iff.mpr rfl
  rw [strip, header?]
  simp only [newline?, Option.getD_some, footer?, String.ofList_toList]

/-- Contents are told apart by what is framed of them. -/
theorem framed_injective :
    Function.Injective framed := by
  intro first second same
  rw [← strip_framed first, same, strip_framed]

/-- Put both markers into a file, the header first. -/
def frame
    (tree : FileTree)
    (here : Location)
    (path : String) :
    Except FileFault FileTree := do
  putFooter (← putHeader tree here path) here path

/-- Put both markers into a file, the footer first. -/
def frameFooterFirst
    (tree : FileTree)
    (here : Location)
    (path : String) :
    Except FileFault FileTree := do
  putHeader (← putFooter tree here path) here path

/-- Write a file anew without its markers. -/
def unframe
    (tree : FileTree)
    (here : Location)
    (path : String) :
    Except FileFault FileTree := do
  tree.write here path (← readStripped tree here path).toUTF8

/-- Take a step on the files several times. -/
def repeated
    (step : FileTree → Except FileFault FileTree) :
    (count : Nat) → FileTree → Except FileFault FileTree
  | 0, tree => .ok tree
  | count + 1, tree => do repeated step count (← step tree)

/-- The tree with another text in the file at a location. -/
def written
    (tree : FileTree)
    (location : Location)
    (isExecutable : Bool)
    (content : String) :
    FileTree :=
  tree.put location (.file content.toUTF8 isExecutable)

section

variable
  {tree : FileTree}
  {here location : Location}
  {path content : String}
  {isExecutable : Bool}

/-- A path to a file finds the text that was written there. -/
theorem find_written
    (found : tree.find here path = .ok (location, .file content.toUTF8 isExecutable))
    (next : String) :
    (written tree location isExecutable next).find here path =
      .ok (location, .file next.toUTF8 isExecutable) := by
  rw [written, FileTree.find_put (FileTree.along_of_find found).2, found]
  simp [Except.map]

/-- What was written to a file before does not matter. -/
theorem written_written
    (found : tree.find here path = .ok (location, .file content.toUTF8 isExecutable))
    (first second : String) :
    written (written tree location isExecutable first) location isExecutable second =
      written tree location isExecutable second :=
  FileTree.put_put (FileTree.along_of_find found).2 _

/-- The header comes before the text of a file. -/
theorem putHeader_of_find
    (found : tree.find here path = .ok (location, .file content.toUTF8 isExecutable)) :
    putHeader tree here path = .ok (written tree location isExecutable (withHeader content)) := by
  have holds : tree.HoldsText here path content := ⟨location, isExecutable, found⟩
  rw [putHeader, holds.readText]
  exact FileTree.write_of_find found

/-- The footer comes behind the text of a file. -/
theorem putFooter_of_find
    (found : tree.find here path = .ok (location, .file content.toUTF8 isExecutable)) :
    putFooter tree here path = .ok (written tree location isExecutable (content ++ footer)) := by
  rw [putFooter, FileTree.append_of_find found, written]
  simp only [String.toUTF8_eq_toByteArray, String.toByteArray_append]

/-- Both markers are put around the text of a file. -/
theorem frame_of_find
    (found : tree.find here path = .ok (location, .file content.toUTF8 isExecutable)) :
    frame tree here path = .ok (written tree location isExecutable (framed content)) := by
  have withHeaderFound := find_written found (withHeader content)
  rw [frame, putHeader_of_find found]
  change putFooter (written tree location isExecutable (withHeader content)) here path = _
  rw [putFooter_of_find withHeaderFound, written_written found, framed]

/-- The markers stand around the text in the same way when the footer is put first. -/
theorem frameFooterFirst_of_find
    (found : tree.find here path = .ok (location, .file content.toUTF8 isExecutable)) :
    frameFooterFirst tree here path =
      .ok (written tree location isExecutable (framed content)) := by
  have withFooterFound := find_written found (content ++ footer)
  have sameText : withHeader (content ++ footer) = framed content := by
    simp only [framed, withHeader, String.append_assoc]
  rw [frameFooterFirst, putFooter_of_find found]
  change putHeader (written tree location isExecutable (content ++ footer)) here path = _
  rw [putHeader_of_find withFooterFound, written_written found, sameText]

/-- What is left of the text of a file without its markers is written in its place. -/
theorem unframe_of_find
    (found : tree.find here path = .ok (location, .file content.toUTF8 isExecutable)) :
    unframe tree here path = .ok (written tree location isExecutable (strip content)) := by
  have holds : tree.HoldsText here path content := ⟨location, isExecutable, found⟩
  rw [unframe, readStripped, holds.readText]
  exact FileTree.write_of_find found

/-- A file that is framed several times has as many markers around its text. -/
theorem repeated_frame_of_find
    (found : tree.find here path = .ok (location, .file content.toUTF8 isExecutable))
    (count : Nat) :
    ∃ framedTree,
      repeated (frame · here path) count tree = .ok framedTree ∧
        framedTree.find here path =
          .ok (location, .file (framed^[count] content).toUTF8 isExecutable) := by
  induction count generalizing tree content with
  | zero =>
      exact ⟨tree, rfl, found⟩
  | succ count inductionHypothesis =>
      obtain ⟨framedTree, framings, framedFound⟩ :=
        inductionHypothesis (find_written found (framed content))
      refine ⟨framedTree, ?_, framedFound⟩
      rw [repeated, frame_of_find found]
      exact framings

/-- From a text with several markers around it, as many are taken away again. -/
theorem repeated_unframe_of_find
    (count : Nat)
    (found :
      tree.find here path =
        .ok (location, .file (framed^[count] content).toUTF8 isExecutable)) :
    ∃ strippedTree,
      repeated (unframe · here path) count tree = .ok strippedTree ∧
        strippedTree.find here path = .ok (location, .file content.toUTF8 isExecutable) := by
  induction count generalizing tree with
  | zero =>
      exact ⟨tree, rfl, found⟩
  | succ count inductionHypothesis =>
      -- The outermost markers come off first.
      have outermost : strip (framed^[count + 1] content) = framed^[count] content := by
        rw [Function.iterate_succ_apply', strip_framed]
      have strippedFound := find_written found (framed^[count] content)
      obtain ⟨strippedTree, strippings, contentFound⟩ := inductionHypothesis strippedFound
      refine ⟨strippedTree, ?_, contentFound⟩
      rw [repeated, unframe_of_find found, outermost]
      exact strippings

/-- Two files with texts have the same bytes exactly if they have the same text. -/
theorem sameFiles_of_find
    {first second firstContent secondContent : String}
    {firstLocation secondLocation : Location}
    {firstExecutable secondExecutable : Bool}
    (firstFound :
      tree.find here first = .ok (firstLocation, .file firstContent.toUTF8 firstExecutable))
    (secondFound :
      tree.find here second = .ok (secondLocation, .file secondContent.toUTF8 secondExecutable)) :
    sameFiles tree here first second = .ok (decide (firstContent = secondContent)) := by
  rw [sameFiles, FileTree.read_of_find firstFound, FileTree.read_of_find secondFound]
  change Except.ok (decide (firstContent.toUTF8.data = secondContent.toUTF8.data)) = _
  simp only [String.toUTF8_eq_toByteArray, ← ByteArray.ext_iff, String.toByteArray_inj]

/-- A path to another location finds what it found before a text was written. -/
theorem find_written_elsewhere
    {other otherContent : String}
    {otherLocation : Location}
    {otherExecutable : Bool}
    (found : tree.find here path = .ok (location, .file content.toUTF8 isExecutable))
    (otherFound :
      tree.find here other = .ok (otherLocation, .file otherContent.toUTF8 otherExecutable))
    (elsewhere : otherLocation ≠ location)
    (next : String) :
    (written tree location isExecutable next).find here other =
      .ok (otherLocation, .file otherContent.toUTF8 otherExecutable) := by
  rw [written, FileTree.find_put (FileTree.along_of_find found).2, otherFound]
  simp [Except.map, elsewhere]

/-- After both files were framed, they are the same exactly if their texts were. -/
theorem exists_sameFiles_framed
    {first second firstContent secondContent : String}
    (ofFirst : tree.HoldsText here first firstContent)
    (ofSecond : tree.HoldsText here second secondContent) :
    ∃ firstFramed bothFramed,
      frame tree here first = .ok firstFramed ∧
        frame firstFramed here second = .ok bothFramed ∧
          sameFiles bothFramed here first second =
            .ok (decide (firstContent = secondContent)) := by
  obtain ⟨firstLocation, firstExecutable, firstFound⟩ := ofFirst
  obtain ⟨secondLocation, secondExecutable, secondFound⟩ := ofSecond
  by_cases together : secondLocation = firstLocation
  · -- Both paths lead to one file, which has one text and is framed twice.
    subst together
    have sameFile :=
      (FileTree.along_of_find firstFound).2.symm.trans (FileTree.along_of_find secondFound).2
    simp only [Option.some.injEq, Entry.file.injEq, String.toUTF8_eq_toByteArray,
      String.toByteArray_inj] at sameFile
    obtain ⟨rfl, rfl⟩ := sameFile
    have firstAfter := find_written firstFound (framed firstContent)
    have secondAfter := find_written secondFound (framed firstContent)
    refine ⟨_, _, frame_of_find firstFound, frame_of_find secondAfter, ?_⟩
    rw [sameFiles_of_find (find_written firstAfter _) (find_written secondAfter _)]
    simp
  · have secondStill :=
      find_written_elsewhere firstFound secondFound together (framed firstContent)
    have firstAfter :=
      find_written_elsewhere secondStill (find_written firstFound (framed firstContent))
        (Ne.symm together) (framed secondContent)
    refine ⟨_, _, frame_of_find firstFound, frame_of_find secondStill, ?_⟩
    rw [sameFiles_of_find firstAfter (find_written secondStill _)]
    simp only [framed_injective.eq_iff]

end

/-- A use of the files: its answer, and the files after it. -/
abbrev FileUse (α : Type) := ExceptT FileFault (StateM FileTree) α

/-- Reading a text, which leaves the files as they are. -/
def readingText
    (here : Location)
    (path : String) :
    FileUse String :=
  fun tree => (tree.readText here path, tree)

/-- Writing a file; nothing is known about the files after a write that fails. -/
def writing
    (afterFailure : FileTree → FileTree)
    (here : Location)
    (path : String)
    (content : ByteArray) :
    FileUse Unit :=
  fun tree =>
    match tree.write here path content with
    | .ok next => (.ok (), next)
    | .error fault => (.error fault, afterFailure tree)

/-- Putting the header into a file, one use of the files after the other. -/
def puttingHeader
    (afterFailure : FileTree → FileTree)
    (here : Location)
    (path : String) :
    FileUse Unit := do
  let content ← readingText here path
  writing afterFailure here path (withHeader content).toUTF8

/-- A file whose text was read can be written. -/
theorem exists_write_of_readText
    {tree : FileTree}
    {here : Location}
    {path content : String}
    (isRead : tree.readText here path = .ok content)
    (bytes : ByteArray) :
    ∃ next, tree.write here path bytes = .ok next := by
  obtain ⟨before, beforeRead, _⟩ := Document.bind_eq_ok_iff.mp isRead
  obtain ⟨⟨location, entry⟩, found, isFile⟩ := Document.bind_eq_ok_iff.mp beforeRead
  cases entry with
  | directory =>
      cases isFile
  | file content isExecutable =>
      exact ⟨_, FileTree.write_of_find found⟩
  | sink =>
      refine ⟨tree, ?_⟩
      rw [FileTree.write, FileTree.locate_of_find found]
      rfl

/-- One use after the other, the header is put or the files are left as they are. -/
theorem puttingHeader_eq
    (afterFailure : FileTree → FileTree)
    (tree : FileTree)
    (here : Location)
    (path : String) :
    puttingHeader afterFailure here path tree =
      match putHeader tree here path with
      | .ok next => (.ok (), next)
      | .error fault => (.error fault, tree) := by
  simp only [puttingHeader, bind, ExceptT.bind, ExceptT.mk, StateT.bind, readingText, putHeader,
    Except.bind]
  cases isRead : tree.readText here path with
  | error fault =>
      rfl
  | ok content =>
      obtain ⟨next, isWritten⟩ := exists_write_of_readText isRead (withHeader content).toUTF8
      simp only [ExceptT.bindCont, writing, isWritten]

/--
What the markers are to the selection files of a tree: they are put around a text in either order
and come off again, also after several framings; they make no difference to comparisons; and a
header that cannot be put leaves the files as they are.
-/
structure IsLosslessLayer
    (tree : FileTree)
    (here : Location) :
    Prop where
  eitherOrder :
    ∀ path content, tree.HoldsText here path content →
      ∃ framedTree,
        frame tree here path = .ok framedTree ∧
          frameFooterFirst tree here path = .ok framedTree ∧
          framedTree.readText here path = .ok (header ++ "\n" ++ content ++ footer) ∧
          readStripped framedTree here path = .ok content
  recovered :
    ∀ path content, tree.HoldsText here path content →
      ∀ count, ∃ framedTree strippedTree,
        repeated (frame · here path) count tree = .ok framedTree ∧
          repeated (unframe · here path) count framedTree = .ok strippedTree ∧
          strippedTree.readText here path = .ok content
  compared :
    ∀ first second firstContent secondContent,
      tree.HoldsText here first firstContent → tree.HoldsText here second secondContent →
        ∃ firstFramed bothFramed,
          frame tree here first = .ok firstFramed ∧
            frame firstFramed here second = .ok bothFramed ∧
            sameFiles bothFramed here first second =
              .ok (decide (firstContent = secondContent))
  refusesMissing :
    ∀ path, tree.find here path = .error .notFound →
      putHeader tree here path = .error .notFound
  refusesNoText :
    ∀ path bytes, tree.read here path = .ok bytes → (∀ text : String, text.toUTF8 ≠ bytes) →
      putHeader tree here path = .error .notText
  unchangedByRefusal :
    ∀ path fault, putHeader tree here path = .error fault →
      ∀ afterFailure, puttingHeader afterFailure here path tree = (.error fault, tree)

/-- Whatever the files of a tree hold, the markers are a lossless layer around it. -/
theorem isLosslessLayer
    (tree : FileTree)
    (here : Location) :
    IsLosslessLayer tree here where
  eitherOrder := by
    rintro path content ⟨location, isExecutable, found⟩
    have framedFound := find_written found (framed content)
    have holds : (written tree location isExecutable (framed content)).HoldsText here path
        (framed content) :=
      ⟨location, isExecutable, framedFound⟩
    refine ⟨_, frame_of_find found, frameFooterFirst_of_find found, holds.readText, ?_⟩
    rw [readStripped, holds.readText]
    exact congrArg Except.ok (strip_framed content)
  recovered := by
    rintro path content ⟨location, isExecutable, found⟩ count
    obtain ⟨framedTree, framings, framedFound⟩ := repeated_frame_of_find found count
    obtain ⟨strippedTree, strippings, strippedFound⟩ := repeated_unframe_of_find count framedFound
    have holds : strippedTree.HoldsText here path content :=
      ⟨location, isExecutable, strippedFound⟩
    exact ⟨framedTree, strippedTree, framings, strippings, holds.readText⟩
  compared := by
    intro first second firstContent secondContent ofFirst ofSecond
    exact exists_sameFiles_framed ofFirst ofSecond
  refusesMissing := by
    intro path missing
    rw [putHeader, FileTree.readText, FileTree.read, missing]
    rfl
  refusesNoText := by
    intro path bytes isRead noText
    rw [putHeader, FileTree.readText, isRead]
    simp only [bind, Except.bind, Utf8.decode?_eq_none noText]
  unchangedByRefusal := by
    intro path fault refused afterFailure
    rw [puttingHeader_eq, refused]

/-- A tree with a text, the same text between markers already, and a byte that is no text. -/
def markedTree : FileTree where
  entries :=
    [ (["plain"], .file "main\n".toUTF8 false),
      (["marked"], .file (framed "main\n").toUTF8 false),
      (["raw"], .file ⟨#[0xFF]⟩ false) ]

/-- A text that has markers of its own gets them back, and the byte that is no text is refused. -/
theorem isLosslessLayer_markedTree :
    markedTree.HoldsText [] "marked" (framed "main\n") ∧
      markedTree.HoldsText [] "plain" "main\n" ∧
      (∃ framedTree strippedTree,
        repeated (frame · [] "marked") 2 markedTree = .ok framedTree ∧
          repeated (unframe · [] "marked") 2 framedTree = .ok strippedTree ∧
          strippedTree.readText [] "marked" = .ok (framed "main\n")) ∧
      (∃ firstFramed bothFramed,
        frame markedTree [] "plain" = .ok firstFramed ∧
          frame firstFramed [] "marked" = .ok bothFramed ∧
          sameFiles bothFramed [] "plain" "marked" = .ok false) ∧
      putHeader markedTree [] "missing" = .error .notFound ∧
      putHeader markedTree [] "raw" = .error .notText := by
  have layer := isLosslessLayer markedTree []
  have marked : markedTree.HoldsText [] "marked" (framed "main\n") :=
    ⟨["marked"], false, rfl⟩
  have plain : markedTree.HoldsText [] "plain" "main\n" := ⟨["plain"], false, rfl⟩
  have different : "main\n" ≠ framed "main\n" := by decide
  have noText : ∀ text : String, text.toUTF8 ≠ ⟨#[0xFF]⟩ := by
    intro text same
    have refused : Utf8.decode? ⟨#[0xFF]⟩ = none := by decide +kernel
    rw [← same, Utf8.decode?_toUTF8] at refused
    cases refused
  refine ⟨marked, plain, layer.recovered "marked" _ marked 2, ?_,
    layer.refusesMissing "missing" rfl, layer.refusesNoText "raw" _ rfl noText⟩
  simpa [different] using layer.compared "plain" "marked" _ _ plain marked

end Selection

end BenchmarkOrchestration
