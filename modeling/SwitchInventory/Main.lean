import SwitchInventory.CommandLine.Run

namespace SwitchInventory.CommandLine

def readDisk (path : String) : IO (Except ReadFailure String) := do
  if '\x00' ∈ path.toList then return .error .nullInPath
  try
    let bytes ← IO.FS.readBinFile path
    match String.fromUTF8? bytes with
    | some text => return .ok text
    | none => return .error .notText
  catch
    | .noFileOrDirectory .. => return .error .notFound
    | e => return .error (.other (toString e))

/-- The files that a command line may ask for. -/
def diskFiles (arguments : List String) : IO Files := do
  let paths := match Options.read arguments with
    | .ok options => if options.command = Command.platforms then [] else options.input
    | .error _ => []
  let contents ← paths.mapM fun path => return (path, ← readDisk path)
  return fun path => (contents.lookup path).getD (.error .notFound)

def topicLabel : Topic → String
  | .config => "config"
  | .portMappings => "port mappings"
  | .inventory => "inventory"
  | .platform => "platform"
  | .lookup => "lookup"
  | .command => "net-ansible"

end SwitchInventory.CommandLine

open SwitchInventory SwitchInventory.CommandLine in
def main (arguments : List String) : IO UInt32 := do
  let files ← diskFiles arguments
  let outcome := run files arguments
  if let .error refusal := Options.read arguments then
    if outcome.exitCode ≠ 0 then IO.eprintln ("error: " ++ refusal.message)
  for event in outcome.events do
    IO.eprintln (event.level.label ++ " " ++ topicLabel event.topic ++ ": " ++ event.message)
  IO.print outcome.output
  return outcome.exitCode.toUInt32
