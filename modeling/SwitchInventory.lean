import SwitchInventory.CommandLine.Encoding
import SwitchInventory.Main
import SwitchInventory.Proofs.Config.Concat
import SwitchInventory.Proofs.Inventory.MacIndex
import SwitchInventory.Proofs.Inventory.Names
import SwitchInventory.Proofs.CommandLine.PortLines
import SwitchInventory.Proofs.Inventory.Hosts
import SwitchInventory.Proofs.Text.Endings
import SwitchInventory.Proofs.Config.Assignments
import SwitchInventory.Proofs.Config.Duplicates
import SwitchInventory.Proofs.Json.Spelling
import SwitchInventory.Proofs.Json.Strings
import SwitchInventory.Proofs.Json.Decoding
import SwitchInventory.Proofs.Json.Records
import SwitchInventory.Proofs.Encoding
import SwitchInventory.Proofs.Files
import SwitchInventory.Proofs.Config.Layout
import SwitchInventory.Proofs.Config.Prefix
import SwitchInventory.Proofs.Inventory.Blame
import SwitchInventory.Proofs.Inventory.Blocks
import SwitchInventory.Proofs.Platform.Recognition
import SwitchInventory.Proofs.PortMapping.VirtualFunction
import SwitchInventory.Proofs.Inventory.Insertion
import SwitchInventory.Proofs.Platform.Arguments
import SwitchInventory.Proofs.CommandLine.Console
import SwitchInventory.Proofs.CommandLine.Exit
import SwitchInventory.Proofs.Config.Continuation
