import ApiToolbox.Message
import ApiToolbox.Server
import Std.Async.DNS
import Std.Async.TCP
import Std.Async.Timer

/-!
The program: it reads the command line, the files and the variables that the toolbox asks for, then
answers one message a line.
-/

namespace ApiToolbox.Program

open Json (Value)
open Std.Async Std.Net

/-! ### Files -/

/-- Put into the tree what stands on the way along names from a place. -/
def look (t : FileTree) (place : List String) : List String → IO FileTree
  | [] => return t
  | name :: rest =>
    if name = "" || name = "." then look t place rest
    else if name = ".." then look t place.dropLast rest
    else do
      let here := place ++ [name]
      let found? ← try
          let real ← IO.FS.realPath (FileTree.pathOf here)
          pure (some real.toString)
        catch _ => pure none
      match found? with
      | none => return t
      | some real =>
        let there := (FileTree.names real).filter (· ≠ "")
        let t := if there = here then t else t.put here (.link real)
        let content? ← try
            let bytes ← IO.FS.readBinFile real
            pure (some bytes.toList)
          catch _ => pure none
        match content? with
        | some content => return t.put there (.file content)
        | none => look (t.makeDirectory there) there rest

def lookAt (t : FileTree) (path : String) : IO FileTree :=
  look t (if FileTree.isAbsolute path then [] else t.current) (FileTree.names path)

/-- Put the index at a path into the tree, with all documents that references lead to. -/
def lookForDocuments (t : FileTree) (path : String) : IO FileTree := do
  let mut t ← lookAt t path
  let mut ahead := [DocPath.locate t path]
  let mut seen : List DocPath := []
  repeat
    match ahead with
    | [] => break
    | doc :: rest =>
      ahead := rest
      if doc ∉ seen then
        seen := doc :: seen
        if let .ok text := t.read doc.text then
          for reference in ((Document.parse? text).map Library.references).getD [] do
            if let .ok target := Target.ofReference .empty doc reference then
              t ← lookAt t target.doc.text
              ahead := .locate t target.doc.text :: ahead
  return t

/-! ### Variables -/

def readVariables (names : List String) : IO Environment := do
  let found ← names.mapM fun name => do return (← IO.getEnv name).map (name, ·)
  return ⟨found.filterMap id⟩

/-! ### Requests -/

/-- Exchange bytes with an address until the other side is done. -/
def converse (address : IPAddr) (port : UInt16) (message : ByteArray) : Async ByteArray := do
  let socket ← TCP.Socket.Client.mk
  socket.connect <| match address with
    | .v4 a => .v4 ⟨a, port⟩
    | .v6 a => .v6 ⟨a, port⟩
  socket.send message
  let mut bytes := ByteArray.empty
  repeat
    match ← socket.recv? 65536 with
    | some more => bytes := bytes ++ more
    | none => break
  return bytes

def hostName : Url.Host → String
  | .ipv6 pieces => String.ofList (Url.Host.ipv6Text pieces)
  | host => String.ofList host.text

/-- Exchange a request for a response. Only plain connections can be made. -/
def exchange (r : Request) : IO (Except ExchangeError Response) := do
  match r.url.scheme, r.url.authority with
  | "http", some a =>
    let message := ByteArray.mk (Message.ofRequest r).toArray
    let talk : Async (Except ExchangeError Response) := do
      let addresses ← DNS.getAddrInfo (hostName a.host) ""
      match addresses[0]? with
      | some address =>
        let bytes ← converse address (UInt16.ofNat (a.port.getD 80)) message
        return Message.answer r bytes.toList
      | none => return .error (.notReached r)
    let _ : Inhabited (Except ExchangeError Response) := ⟨.error (.notReached r)⟩
    try
      match r.timeout with
      | some seconds =>
        (Async.race talk do
          sleep (.ofNat (1000 * seconds))
          return .error (.notReached r)).block
      | none => talk.block
    catch _ => return .error (.notReached r)
  | _, _ => return .error (.notReached r)

/-! ### Messages -/

/-- Answer the messages of a client, one a line, until it is gone. -/
def serve (b : Toolbox) (e : Environment) (input output : IO.FS.Stream) : IO Unit := do
  repeat
    let line ← input.getLine
    if line = "" then break
    if let .ok message := Json.parse (Text.trimmed line) then
      if let some (id, ask) := Server.request? message then
        let answer ← Server.answer b e exchange ask
        output.putStr ((Server.reply id answer).text ++ "\n")
        output.flush

/-- What is needed to start: the variables and the files that the command line leads to. -/
def gather (words : List String) : IO (Environment × FileTree) := do
  let current := (FileTree.names (← IO.currentDir).toString).filter (· ≠ "")
  let mut t := FileTree.makeDirectory { FileTree.empty with current } current
  let e ← readVariables (CommandLine.Switch.all.filterMap CommandLine.Switch.standIn?)
  let .ok c := CommandLine.parse e words | return (e, t)
  if let some path := c.settings then t ← lookAt t path
  let .ok s := c.resolve (Settings.ofFile t) | return (e, t)
  let more ← readVariables (s.baseUrlVariable :: s.tokenVariables)
  return (⟨e.entries ++ more.entries⟩, ← lookForDocuments t s.index)

def run (words : List String) : IO UInt32 := do
  let (e, t) ← gather words
  match Server.start e t words with
  | .ok b =>
    serve b e (← IO.getStdin) (← IO.getStdout)
    return 0
  | .error (.usage .help) =>
    IO.println CommandLine.help
    return 0
  | .error (.usage .version) =>
    IO.println (Server.name ++ " " ++ Server.version)
    return 0
  | .error f =>
    IO.eprintln ((f.report?).getD ("error: bad usage\n\n" ++ CommandLine.help))
    return f.exitCode.toUInt32

end ApiToolbox.Program

def main (words : List String) : IO UInt32 := ApiToolbox.Program.run words
