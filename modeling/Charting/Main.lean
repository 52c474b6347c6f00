import Charting.Demo

open Charting

def main : IO Unit := do
  IO.FS.createDirAll Demo.directory
  for (name, text) in Demo.files do
    IO.FS.writeFile (Demo.directory ++ "/" ++ name) text
    IO.println (Demo.report name)
