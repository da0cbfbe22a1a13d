import IppClient.Base.Text

/-!
# The user's default printer (`lpoptions.rs`)

`lpoptions` files are line-oriented: `Default <dest>[/<instance>] [options...]`. A file is its
bytes, or `none` where it is absent or cannot be read; `read_to_string` fails on bytes that are
not UTF-8.
-/

namespace Ipp.Lpoptions

open Base

/-- The destination a line names: the first word after `Default `, up to its first `/`. -/
def lineDestination (line : String) : Option String :=
  (Text.stripStart line "Default ").bind fun rest =>
    (Text.firstWord rest).map fun dest => Text.beforeFirst dest '/'

/-- `lpoptions::parse_default`: the last destination that is not empty. -/
def parseDefault (contents : String) : Option String :=
  (((Text.lines contents).filterMap lineDestination).reverse).find? fun dest => dest ≠ ""

/-- `std::fs::read_to_string`, of a file given by its bytes. -/
def readToString (file : Option ByteArray) : Option String := file.bind String.fromUTF8?

/-- `lpoptions::default_printer_from`: the user file first, then the system file. -/
def defaultPrinterFrom (user system : Option ByteArray) : Option String :=
  [user, system].findSome? fun file => (readToString file).bind parseDefault

example : parseDefault "\nDest Other a=b\nDefault HP-8210/duplex media=a4\r\nDefault\n" =
    some "HP-8210" := by decide

end Ipp.Lpoptions
