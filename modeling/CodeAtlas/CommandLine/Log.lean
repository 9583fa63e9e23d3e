import CodeAtlas.FileSystem
import CodeAtlas.Graph.Basic

/-!
# Logs

A run reports what it does in messages, each of a level, and a log keeps those that reach its least level in a
file.  What it does with the file is its own affair: it may write lines in a form of its own, begin a new file when
the old one has grown too large, and pack or remove old ones.  So a log is given by what it does to the file
system when it is opened and when it records a message; the library asks for nothing else.

## Main definitions

* `Message`: what is reported, and the messages of a run.
* `Log`: a log, by what it does.
* `Log.lines`: a log that writes each message into one line.
-/

namespace CodeAtlas.CommandLine

/-- Something to report. -/
structure Message where
  level : String
  text : String

namespace Message

/-- An input cannot be read. -/
def unreadable (input reason : String) : Message := ⟨"ERROR", "Could not read " ++ input ++ ": " ++ reason⟩

/-- A graph has been made. -/
def built (g : Graph Float) : Message :=
  ⟨"INFO", "Graph built: " ++ toString g.nodes.length ++ " nodes, " ++ toString g.edges.length ++ " edges, "
    ++ toString g.communities.length ++ " communities"⟩

/-- An output cannot be written. -/
def unwritable (output reason : String) : Message := ⟨"ERROR", "Could not write " ++ output ++ ": " ++ reason⟩

/-- A graph has been stored: its figures, and where it is. -/
def stored (g : Graph Float) (output : String) : List Message := [
  ⟨"INFO", "Files: " ++ toString g.metadata.totalFiles ++ ", entities: " ++ toString g.metadata.totalEntities
    ++ ", relationships: " ++ toString g.metadata.totalRelationships
    ++ ", communities: " ++ toString g.communities.length⟩,
  ⟨"INFO", "Output: " ++ output⟩]

end Message

/-- A log, by what it does.  A message that it cannot record is lost. -/
structure Log where
  /-- the levels that it has -/
  levels : List String
  /-- opens the file at a path, in a directory that is there -/
  attach : Path → FileSystem → FileSystem × Except FileFault Unit
  /-- records a message in the file at a path, if it reaches a level -/
  record : String → Path → Message → FileSystem → FileSystem

namespace Log

/-- The content of a file, none if it cannot be read. -/
def contentOf (fs : FileSystem) (path : Path) : ByteArray :=
  match fs.read path with
  | .ok content => content
  | .error _ => .empty

/-- Writes behind what a file has in it. -/
def append (path : Path) (content : ByteArray) (fs : FileSystem) : FileSystem × Except FileFault Unit :=
  match fs.create path with
  | .error f => (fs, .error f)
  | .ok opened => opened.fill path (contentOf fs path ++ content)

/-- The levels of a log that writes lines, the least one first. -/
def standardLevels : List String := ["TRACE", "DEBUG", "INFO", "SUCCESS", "WARNING", "ERROR", "CRITICAL"]

/-- A log that writes each message into one line, behind those that are there. -/
def lines : Log where
  levels := standardLevels
  attach path fs := append path .empty fs
  record level path m fs :=
    if standardLevels.idxOf level ≤ standardLevels.idxOf m.level ∧ Text.isEncodable m.text = true then
      (append path (Text.encode (m.level ++ " | " ++ m.text ++ "\n")) fs).1
    else fs

end Log

end CodeAtlas.CommandLine
