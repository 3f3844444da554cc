import PatternScan.Unicode.Property

namespace PatternScan.Text

def isPlain (c : Char) : Bool :=
  CodeSet.contains Unicode.printableSet c.toNat && !CodeSet.contains Unicode.extendingSet c.toNat

def codeEscape (c : Char) : List Char :=
  '\\' :: 'u' :: '\x7b' :: Nat.toDigits 16 c.toNat ++ ['\x7d']

def quoteChar (c : Char) : List Char :=
  if c == '"' || c == '\\' then ['\\', c]
  else if c == '\n' then ['\\', 'n']
  else if c == '\r' then ['\\', 'r']
  else if c == '\t' then ['\\', 't']
  else if c == '\x00' then ['\\', '0']
  else if isPlain c then [c]
  else codeEscape c

def quoted (s : String) : String :=
  String.ofList ('"' :: s.toList.flatMap quoteChar ++ ['"'])

end PatternScan.Text
