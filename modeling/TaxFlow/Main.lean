import TaxFlow.CommandLine.Run

/-!
# The command line program

Reads the files that the arguments name, and prints and writes what a run leaves. Documents of
releases have to be fetched beforehand, because the program does not ask the network itself.
-/
namespace TaxFlow.CommandLine

def surroundings (args : List String) : IO Surroundings := do
  match read args with
  | .ok (.choices c) =>
    let folder : Folder := match c.outfile with
      | some path => Folder.withWay [] path
      | none => []
    match c.document with
    | none => return { folder, network := .failure "" }
    | some path =>
      try
        let content ← IO.FS.readBinFile path
        let place := Folder.settled (Folder.parts path)
        return { folder := (folder.withWay path).put place content, network := .failure "" }
      catch _ => return { folder, network := .failure "" }
  | _ => return { folder := [], network := .failure "" }

/-- Writes the output file, if the run has come to it. -/
def keep (args : List String) (o : Outcome) : IO Unit := do
  match read args with
  | .ok (.choices c) =>
    match c.outfile with
    | some path =>
      match o.folder.read? path with
      | some content => IO.FS.writeBinFile path content
      | none => return
    | none => return
  | _ => return

def program (args : List String) : IO UInt32 := do
  let o := run args (← surroundings args)
  IO.print o.output
  IO.eprint o.errors
  keep args o
  match o.requests, o.exit with
  | r :: _, _ =>
    IO.eprintln ("not fetched: " ++ r.url)
    return 1
  | [], .ok code => return code.toUInt32
  | [], .error fault =>
    IO.eprintln (fault.message.getD "the document cannot be read")
    return 1

end TaxFlow.CommandLine

def main (args : List String) : IO UInt32 := TaxFlow.CommandLine.program args
