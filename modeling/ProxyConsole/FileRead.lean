import ProxyConsole.Text.Utf8

/-!
# Reading files

How an attempt to read a file ends. A file that is read as text has to be UTF-8.
-/

namespace ProxyConsole

inductive FileRead where
  | absent
  | refused
  | content (bytes : List UInt8)
  deriving DecidableEq

namespace FileRead

def text? : FileRead → Option String
  | content bytes => (Utf8.decode? bytes).map String.ofList
  | _ => none

end FileRead

end ProxyConsole
