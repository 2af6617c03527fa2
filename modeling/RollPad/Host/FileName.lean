import RollPad.Host.Basic

/-!
Names of files. A name leads, part by part, from the root of all files or from the working directory
through directories to a file (`Host.place`); where a part is no directory, the name leads no
further. A log file is sought by its absolute name, in which every `..` has taken back the part
before it, whether that is there or not; a file of settings is sought by its name as it stands.
-/

namespace RollPad.Host

/-! ### Absolute names -/

/-- What an absolute name begins with; exactly two slashes stay two, and more are as good as one. -/
def root (name : String) : String :=
  match name.toList with
  | '/' :: '/' :: '/' :: _ => "/"
  | '/' :: '/' :: _ => "//"
  | '/' :: _ => "/"
  | _ => ""

/-- The parts of a file name, between its slashes. -/
def nameParts (name : String) : List String :=
  (name.toList.splitOn '/').map String.ofList

/-- Where the parts of a name begin: at the root of all files, or in the working directory. -/
def origin (h : Host) (name : String) : List String :=
  if root name = "" then h.around.directory else []

/-- One part of a file name behind the parts before it: an empty part and a point stay where they
are, two points go back one part. -/
def stepInto (parts : List String) (part : String) : List String :=
  if part = "" ∨ part = "." then parts
  else if part = ".." then parts.dropLast
  else parts ++ [part]

/-- The absolute name of what the parts lead to from the root of all files. -/
def pathTo (parts : List String) : String :=
  "/" ++ "/".intercalate parts

/-- The absolute name of a file, without detours. -/
def absoluteName (h : Host) (name : String) : String :=
  let path := pathTo ((nameParts name).foldl stepInto (h.origin name))
  if root name = "//" then "/" ++ path else path

/-! ### What names lead to -/

/-- The most bytes of one part of a file name. -/
def longestPart : Nat := 255

/-- The most bytes of a whole file name. -/
def longestName : Nat := 4095

/-- What a file name leads to. -/
inductive Place where
  /-- A file, by its absolute name. It may be there, or can be made. -/
  | file (name : String)
  | directory
  /-- Something in a directory that is not there. -/
  | missing
  /-- Something behind a file. -/
  | beyondFile
  /-- Nothing, for the name or a part of it is too long. -/
  | tooLong
  deriving DecidableEq

/-- Is there a directory where the parts lead to? The working directory and those above it are
there. -/
def isDirectory (h : Host) (parts : List String) : Bool :=
  parts.isPrefixOf h.around.directory || h.around.directories.contains parts

/-- Follow the parts of a name from a directory. A part counts only when the parts before it have
led to a directory. -/
def follow (h : Host) : List String → List String → Place
  | _, [] => .directory
  | here, part :: rest =>
    if part = "" ∨ part = "." then follow h here rest
    else if part = ".." then follow h here.dropLast rest
    else if longestPart < part.utf8ByteSize then .tooLong
    else
      let there := here ++ [part]
      if h.isDirectory there then follow h there rest
      else if rest = [] then .file (pathTo there)
      else if h.files.contains (pathTo there) then .beyondFile
      else .missing

/-- What a file name leads to. -/
def place (h : Host) (name : String) : Place :=
  if longestName < name.utf8ByteSize then .tooLong
  else h.follow (h.origin name) (nameParts name)

/-- What the name of a log file leads to. -/
def logPlace (h : Host) (name : String) : Place :=
  h.place (h.absoluteName name)

/-- The content of a file, if it is there. -/
def fileContent? (h : Host) (name : String) : Option String :=
  match h.place name with
  | .file file => h.files.get? file
  | _ => none

/-- Is there a file or a directory of this name? -/
def hasFile (h : Host) (name : String) : Bool :=
  match h.place name with
  | .file file => h.files.contains file
  | .directory => true
  | _ => false

/-! ### Names hang on files and directories alone -/

section Congr

variable {h h' : Host} (haround : h'.around = h.around) (hfiles : h'.files = h.files)

include haround in
theorem absoluteName_congr (name : String) : h'.absoluteName name = h.absoluteName name := by
  rw [absoluteName, absoluteName, origin, origin, haround]

include haround hfiles

theorem follow_congr (here parts : List String) : h'.follow here parts = h.follow here parts := by
  induction parts generalizing here with
  | nil => rfl
  | cons part rest ih =>
    have hdirectory : h'.isDirectory (here ++ [part]) = h.isDirectory (here ++ [part]) := by
      rw [isDirectory, isDirectory, haround]
    rw [follow, follow]
    dsimp only
    rw [hdirectory, hfiles, ih, ih, ih]

theorem place_congr (name : String) : h'.place name = h.place name := by
  rw [place, place, origin, origin, haround, follow_congr haround hfiles]

theorem logPlace_congr (name : String) : h'.logPlace name = h.logPlace name := by
  rw [logPlace, logPlace, absoluteName_congr haround, place_congr haround hfiles]

theorem fileContent?_congr (name : String) : h'.fileContent? name = h.fileContent? name := by
  rw [fileContent?, fileContent?, place_congr haround hfiles, hfiles]

theorem hasFile_congr (name : String) : h'.hasFile name = h.hasFile name := by
  rw [hasFile, hasFile, place_congr haround hfiles, hfiles]

end Congr

/-! ### Changing files -/

/-- Write a file anew, if its name leads to one. -/
def writeFile (h : Host) (name content : String) : Host :=
  match h.place name with
  | .file file => { h with files := h.files.insert file content }
  | _ => h

/-- Remove a file, if its name leads to one. -/
def deleteFile (h : Host) (name : String) : Host :=
  match h.place name with
  | .file file => { h with files := h.files.erase file }
  | _ => h

end RollPad.Host
