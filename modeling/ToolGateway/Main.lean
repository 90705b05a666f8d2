import ToolGateway.Launch

open ToolGateway

def readIfThere (path : String) : IO (Option (String × String)) := do
  try
    let text ← IO.FS.readFile path
    return some (path, text)
  catch _ => return none

def main : IO UInt32 := do
  let block ← IO.FS.readBinFile "/proc/self/environ"
  let files ← (Launch.paths .textual).filterMapM readIfThere
  let surroundings := ⟨files, Launch.environmentOf ((String.fromUTF8? block).getD "")⟩
  match Launch.run Net.Host.willing .textual surroundings with
  | .ok _ => return 0
  | .error cause =>
    cause.report.forM fun line => IO.eprintln line
    return 1
